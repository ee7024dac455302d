import Remedy.Text.Escape

namespace Remedy.Text.Echo

def joined (style : Escape.Style) : List String → String × Bool
  | [] => ("", false)
  | [w] =>
    let (s, finish) := Escape.replace style w
    (s, finish != .whole)
  | w :: rest =>
    match Escape.replace style w with
    | (s, .whole) =>
      let (more, stopped) := joined style rest
      (s ++ " " ++ more, stopped)
    | (s, _) => (s, true)

/-- What is echoed: `style` tells the escapes, if there are any. -/
def text (style : Option Escape.Style) (hasLine : Bool) (words : List String) : String :=
  let (s, stopped) := match style with
    | some style => joined style words
    | none => (" ".intercalate words, false)
  if stopped || !hasLine then s else s ++ "\n"

def options (hasLine escapes : Bool) : List String → Bool × Bool × List String
  | [] => (hasLine, escapes, [])
  | w :: rest =>
    match w.toList with
    | '-' :: c :: cs =>
      if (c :: cs).all "neE".toList.contains then
        let escapes := (c :: cs).foldl (fun e c => if c == 'e' then true else if c == 'E' then false
          else e) escapes
        options (hasLine && !(c :: cs).contains 'n') escapes rest
      else (hasLine, escapes, w :: rest)
    | _ => (hasLine, escapes, w :: rest)

def ofWords (style : Escape.Style) (words : List String) : String :=
  let (hasLine, escapes, words) := options true false words
  text (if escapes then some style else none) hasLine words

end Remedy.Text.Echo
