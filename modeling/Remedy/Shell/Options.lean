import Remedy.Shell.State

namespace Remedy.Shell.Options

/-- The names of the options with their letters; two of them have marks that no operand names. -/
def plain : List (String × Char) :=
  [("errexit", 'e'), ("noglob", 'f'), ("ignoreeof", 'I'), ("interactive", 'i'), ("monitor", 'm'),
    ("noexec", 'n'), ("stdin", 's'), ("xtrace", 'x'), ("verbose", 'v'), ("vi", 'V'), ("emacs", 'E'),
    ("noclobber", 'C'), ("allexport", 'a'), ("notify", 'b'), ("nounset", 'u'), ("privileged", 'p'),
    ("nolog", '1'), ("debug", '2')]

def extended : List (String × Char) :=
  [("allexport", 'a'), ("braceexpand", 'B'), ("errexit", 'e'), ("errtrace", 'E'),
    ("functrace", 'T'), ("hashall", 'h'), ("histexpand", 'H'), ("keyword", 'k'), ("monitor", 'm'),
    ("noclobber", 'C'), ("noexec", 'n'), ("noglob", 'f'), ("notify", 'b'), ("nounset", 'u'),
    ("onecmd", 't'), ("physical", 'P'), ("privileged", 'p'), ("verbose", 'v'), ("xtrace", 'x')]

def unlettered : List String :=
  ["emacs", "history", "ignoreeof", "nolog", "pipefail", "posix", "vi"]

def table : Dialect → List (String × Char)
  | .plain => plain
  | .extended => extended

structure Change where
  switched : List (Bool × (Char ⊕ String)) := []
  shows : List Bool := []
  operands : Option (List String) := none

def wrong (c : Char) : String := "Illegal option -" ++ String.singleton c

def known (d : Dialect) (c : Char) : Bool :=
  !c.isDigit && (table d).any (·.2 == c)

/-- The letters of one operand; those that take a name find it among the operands behind. -/
def ofLetters (d : Dialect) (on : Bool) :
    List Char → List String → Change → Except String (Change × List String)
  | [], rest, change => .ok (change, rest)
  | 'o' :: cs, rest, change =>
    match rest with
    | [] => ofLetters d on cs [] { change with shows := change.shows ++ [on] }
    | name :: rest =>
      match (table d).lookup name with
      | some c => ofLetters d on cs rest
          { change with switched := change.switched ++ [(on, .inl c)] }
      | none =>
        if d == .extended && unlettered.contains name then
          ofLetters d on cs rest
            { change with switched := change.switched ++ [(on, .inr name)] }
        else .error ("Illegal option -o " ++ name)
  | c :: cs, rest, change =>
    if known d c then
      ofLetters d on cs rest { change with switched := change.switched ++ [(on, .inl c)] }
    else .error (wrong c)

def read (d : Dialect) : Nat → List String → Change → Except String Change
  | 0, _, change => .ok change
  | _, [], change => .ok change
  | n + 1, w :: rest, change =>
    match w.toList with
    | ['-'] =>
      .ok { change with
        switched := change.switched ++ [(false, .inl 'x'), (false, .inl 'v')]
        operands := if rest.isEmpty then none else some rest }
    | ['-', '-'] => .ok { change with operands := some rest }
    | '-' :: cs => do
      let (change, rest) ← ofLetters d true cs rest change
      read d n rest change
    | '+' :: cs => do
      let (change, rest) ← ofLetters d false cs rest change
      read d n rest change
    | _ => .ok { change with operands := some (w :: rest) }

def switch (s : State) (change : Change) : State :=
  change.switched.foldl (fun s (on, which) =>
    match which with
    | .inl c => s.setOption c on
    | .inr name =>
      let others := s.features.filter (· ≠ name)
      { s with features := if on then name :: others else others }) s

def shown (s : State) (asList : Bool) : String :=
  let head := if asList && s.dialect == .plain then "Current option settings\n" else ""
  let rows := (table s.dialect).map (fun (name, c) => (name, s.isOn c)) ++
    (if s.dialect == .plain then [] else unlettered.map fun name => (name, s.has name))
  let rows := if s.dialect == .plain then rows
    else rows.mergeSort fun a b => decide (a.1 ≤ b.1)
  head ++ String.join (rows.map fun (name, on) =>
    if asList then
      let padded := if s.dialect == .plain then name ++ "".pushn ' ' (16 - name.length)
        else name ++ "".pushn ' ' (15 - name.length) ++ "\t"
      padded ++ (if on then "on" else "off") ++ "\n"
    else "set " ++ (if on then "-o " else "+o ") ++ name ++ "\n")

end Remedy.Shell.Options
