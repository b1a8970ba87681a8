-- The disk of the system: its directories, its devices and its programs.
import Worksheet.Host.Turn

namespace Worksheet.Host

open Text (Octets)

namespace Setup

/-! ## Parts of the tree -/

/-- The time at which the system was set up. -/
def birth : Int := 1700000000000000000

def entry (name : String) (node : Node) : Octets × Node := (Octets.ofString name, node)

def directory (entries : List (Octets × Node)) : Node := .directory 493 birth entries

def emptyDirectories (names : List String) : List (Octets × Node) :=
  names.map fun name => entry name (directory [])

def link (name target : String) : Octets × Node := entry name (.link (Octets.ofString target) birth)

def text (name : String) (mode : Mode) (content : String) : Octets × Node :=
  entry name (.file (Text.Utf8.encodeString content) mode birth 0)

/-! ## Users -/

/-- The users of the system: name, number, group, home and shell. -/
def users : List (String × String × String × String × String) :=
  [("root", "0", "0", "/root", "/bin/bash"), ("daemon", "1", "1", "/usr/sbin", "/usr/sbin/nologin"),
    ("bin", "2", "2", "/bin", "/usr/sbin/nologin"), ("sys", "3", "3", "/dev", "/usr/sbin/nologin"),
    ("sync", "4", "65534", "/bin", "/bin/sync"),
    ("games", "5", "60", "/usr/games", "/usr/sbin/nologin"),
    ("man", "6", "12", "/var/cache/man", "/usr/sbin/nologin"),
    ("lp", "7", "7", "/var/spool/lpd", "/usr/sbin/nologin"),
    ("mail", "8", "8", "/var/mail", "/usr/sbin/nologin"),
    ("news", "9", "9", "/var/spool/news", "/usr/sbin/nologin"),
    ("uucp", "10", "10", "/var/spool/uucp", "/usr/sbin/nologin"),
    ("proxy", "13", "13", "/bin", "/usr/sbin/nologin"),
    ("www-data", "33", "33", "/var/www", "/usr/sbin/nologin"),
    ("backup", "34", "34", "/var/backups", "/usr/sbin/nologin"),
    ("list", "38", "38", "/var/list", "/usr/sbin/nologin"),
    ("irc", "39", "39", "/run/ircd", "/usr/sbin/nologin"),
    ("_apt", "42", "65534", "/nonexistent", "/usr/sbin/nologin"),
    ("nobody", "65534", "65534", "/nonexistent", "/usr/sbin/nologin")]

/-- The full names of users, where they are not their names. -/
def fullNames : List (String × String) :=
  [("list", "Mailing List Manager"), ("irc", "ircd"), ("_apt", "")]

def userLine (user : String × String × String × String × String) : String :=
  let (name, number, group, home, shell) := user
  ":".intercalate [name, "x", number, group, (fullNames.lookup name).getD name, home, shell] ++ "\n"

def groups : List (String × String) :=
  [("root", "0"), ("daemon", "1"), ("bin", "2"), ("sys", "3"), ("adm", "4"), ("tty", "5"),
    ("disk", "6"), ("lp", "7"), ("mail", "8"), ("news", "9"), ("uucp", "10"), ("man", "12"),
    ("proxy", "13"), ("kmem", "15"), ("dialout", "20"), ("fax", "21"), ("voice", "22"),
    ("cdrom", "24"), ("floppy", "25"), ("tape", "26"), ("sudo", "27"), ("audio", "29"),
    ("dip", "30"), ("www-data", "33"), ("backup", "34"), ("operator", "37"), ("list", "38"),
    ("irc", "39"), ("src", "40"), ("shadow", "42"), ("utmp", "43"), ("video", "44"), ("sasl", "45"),
    ("plugdev", "46"), ("staff", "50"), ("games", "60"), ("users", "100"), ("nogroup", "65534")]

def groupLine (group : String × String) : String := group.1 ++ ":x:" ++ group.2 ++ ":\n"

/-! ## Directories of the system -/

/-- Texts about the system. -/
def settings : List (Octets × Node) :=
  [text "group" 420 (String.join (groups.map groupLine)),
    text "hostname" 420 "localhost\n",
    text "hosts" 420 "127.0.0.1\tlocalhost\n",
    text "passwd" 420 (String.join (users.map userLine)),
    text "shadow" 416 "root:*:19000:0:99999:7:::\n"]

def devices : List (Octets × Node) :=
  [entry "null" (.device .null), entry "zero" (.device .zero), entry "full" (.device .full),
    link "stdin" "/proc/self/fd/0", link "stdout" "/proc/self/fd/1",
    link "stderr" "/proc/self/fd/2", link "fd" "/proc/self/fd", entry "shm" (.directory 1023 birth [])]

/-- The directory in which each process finds its descriptors. -/
def descriptors : Node :=
  .directory 320 birth ((List.range 64).map fun n => (Octets.ofNat n, .opened n))

def processes : Node :=
  .directory 365 birth [entry "self" (.directory 365 birth [entry "fd" descriptors])]

def programs : Node :=
  directory (link "sh" "dash" :: (Machine.programNames.filter (· ≠ "sh")).map fun name =>
    entry name (.tool name))

def shared : Node :=
  directory ([entry "bin" programs] ++
    emptyDirectories ["games", "include", "lib", "lib64", "libexec"] ++
    [entry "local" (directory (emptyDirectories
      ["bin", "etc", "games", "include", "lib", "man", "sbin", "share", "src"]))] ++
    emptyDirectories ["sbin", "share", "src"])

def root : Node :=
  directory ([link "bin" "usr/bin"] ++ emptyDirectories ["boot"] ++
    [entry "dev" (directory devices), entry "etc" (directory settings)] ++
    emptyDirectories ["home"] ++ [link "lib" "usr/lib", link "lib64" "usr/lib64"] ++
    emptyDirectories ["media", "mnt", "opt"] ++
    [entry "proc" processes, entry "root" (.directory 448 birth [])] ++
    emptyDirectories ["run"] ++ [link "sbin" "usr/sbin"] ++ emptyDirectories ["srv"] ++
    [entry "sys" (.directory 365 birth []), entry "tmp" (.directory 1023 birth []),
      entry "usr" shared,
      entry "var" (directory (emptyDirectories
        ["backups", "cache", "lib", "local", "log", "mail", "opt", "spool"] ++
        [link "run" "/run", entry "tmp" (.directory 1023 birth [])]))])

/-- A disk with nothing on it but the system. -/
def disk (current scratch : Place) (now : Int) : Disk := ⟨root, current, scratch, 0, 0, now⟩

end Setup

end Worksheet.Host
