import Remedy.Shell.Start
import Remedy.Tool.Catalogue
import Remedy.Unix.Machine

namespace Remedy.Host.Installation

open Unix Files

def shells : List (String × Shell.Dialect) :=
  [("sh", .plain), ("dash", .plain), ("bash", .extended)]

def loader : Loader := fun name arguments environment =>
  match shells.lookup name with
  | some d => some (Shell.Start.program d arguments environment)
  | none =>
    (Tool.catalogue.lookup name).map fun tool =>
      Tool.program (tool (arguments.drop 1)) (arguments.headD name) environment

def directories : List String :=
  ["/usr/bin", "/usr/sbin", "/usr/lib", "/usr/local/bin", "/usr/local/sbin", "/usr/share", "/dev",
    "/proc/self/fd", "/etc", "/home", "/opt", "/root", "/run", "/srv", "/var/tmp", "/var/log",
    "/mnt", "/tmp"]

def links : List (String × String) :=
  [("/bin", "usr/bin"), ("/sbin", "usr/sbin"), ("/lib", "usr/lib"), ("/dev/fd", "/proc/self/fd"),
    ("/dev/stdin", "/proc/self/fd/0"), ("/dev/stdout", "/proc/self/fd/1"),
    ("/dev/stderr", "/proc/self/fd/2")]

def devices : List (String × Device) :=
  [("null", .null), ("zero", .zero), ("full", .full), ("random", .random), ("urandom", .random),
    ("tty", .terminal)]

def descriptors : Nat := 64

def users : List (String × Nat × Nat × String × String) :=
  let closed := "/usr/sbin/nologin"
  [("root", 0, 0, "/root", "/bin/bash"), ("daemon", 1, 1, "/usr/sbin", closed),
    ("bin", 2, 2, "/bin", closed), ("sys", 3, 3, "/dev", closed),
    ("sync", 4, 65534, "/bin", "/bin/sync"), ("games", 5, 60, "/usr/games", closed),
    ("man", 6, 12, "/var/cache/man", closed), ("lp", 7, 7, "/var/spool/lpd", closed),
    ("mail", 8, 8, "/var/mail", closed), ("news", 9, 9, "/var/spool/news", closed),
    ("uucp", 10, 10, "/var/spool/uucp", closed), ("proxy", 13, 13, "/bin", closed),
    ("www-data", 33, 33, "/var/www", closed), ("backup", 34, 34, "/var/backups", closed),
    ("list", 38, 38, "/var/list", closed), ("irc", 39, 39, "/run/ircd", closed),
    ("_apt", 42, 65534, "/nonexistent", closed), ("nobody", 65534, 65534, "/nonexistent", closed)]

def groups : List (String × Nat) :=
  [("root", 0), ("daemon", 1), ("bin", 2), ("sys", 3), ("adm", 4), ("tty", 5), ("disk", 6),
    ("lp", 7), ("mail", 8), ("news", 9), ("uucp", 10), ("man", 12), ("proxy", 13), ("kmem", 15),
    ("dialout", 20), ("fax", 21), ("voice", 22), ("cdrom", 24), ("floppy", 25), ("tape", 26),
    ("sudo", 27), ("audio", 29), ("dip", 30), ("www-data", 33), ("backup", 34), ("operator", 37),
    ("list", 38), ("irc", 39), ("src", 40), ("shadow", 42), ("utmp", 43), ("video", 44),
    ("sasl", 45), ("plugdev", 46), ("staff", 50), ("games", 60), ("users", 100),
    ("nogroup", 65534)]

def files : List (String × String) :=
  [("/etc/passwd", String.join (users.map fun (name, user, group, home, shell) =>
      name ++ ":x:" ++ toString user ++ ":" ++ toString group ++ ":" ++ name ++ ":" ++ home ++ ":" ++
        shell ++ "\n")),
    ("/etc/group", String.join (groups.map fun (name, n) => name ++ ":x:" ++ toString n ++ ":\n")),
    ("/etc/hostname", "localhost\n"), ("/etc/hosts", "127.0.0.1\tlocalhost\n")]

def executables : List String := shells.map (·.1) ++ Tool.catalogue.map (·.1)

def fileSystem : FileSystem :=
  let made (fs : FileSystem) (r : Except Errno FileSystem) := r.toOption.getD fs
  let octets (s : String) := FileSystem.path s
  let fs : FileSystem := { now := Machine.epoch - 1000000000 }
  let fs := directories.foldl (fun fs path => made fs (fs.makeDirectories [] (octets path))) fs
  let fs := links.foldl (fun fs (path, target) =>
    made fs (fs.makeLink [] (octets path) (octets target))) fs
  let fs := devices.foldl (fun fs (name, d) =>
    fs.put [octets "dev", octets name] (some (.device d))) fs
  let fs := (List.range descriptors).foldl (fun fs n =>
    fs.put [octets "proc", octets "self", octets "fd", octets (toString n)]
      (some (.device (.descriptor n)))) fs
  let fs := files.foldl (fun fs (path, text) => made fs (fs.writeFile [] (octets path) text)) fs
  let fs := executables.foldl (fun fs name =>
    let path := "/usr/bin/" ++ name
    let fs := made fs (fs.writeFile [] (octets path) (Machine.executableMark ++ name ++ "\n"))
    made fs (fs.apply [] (.setMode path 493))) fs
  let fs := made fs (fs.apply [] (.setMode "/tmp" 1023))
  made fs (fs.apply [] (.setMode "/root" 448))

def machine : Machine := { world := { files := fileSystem }, loader }

end Remedy.Host.Installation
