import LintDispatch.Disk.Tree
import LintDispatch.Text.Split

/-!
The system around a script: its accounts, its directories, and the files of its programs. It is lent
to the disk while a script runs and taken back afterwards, except where the script made use of it.
-/

namespace LintDispatch.Shell.System

def accounts : List String :=
  ["root:x:0:0:root:/root:/bin/bash",
    "daemon:x:1:1:daemon:/usr/sbin:/usr/sbin/nologin",
    "bin:x:2:2:bin:/bin:/usr/sbin/nologin",
    "sys:x:3:3:sys:/dev:/usr/sbin/nologin",
    "sync:x:4:65534:sync:/bin:/bin/sync",
    "games:x:5:60:games:/usr/games:/usr/sbin/nologin",
    "man:x:6:12:man:/var/cache/man:/usr/sbin/nologin",
    "lp:x:7:7:lp:/var/spool/lpd:/usr/sbin/nologin",
    "mail:x:8:8:mail:/var/mail:/usr/sbin/nologin",
    "news:x:9:9:news:/var/spool/news:/usr/sbin/nologin",
    "uucp:x:10:10:uucp:/var/spool/uucp:/usr/sbin/nologin",
    "proxy:x:13:13:proxy:/bin:/usr/sbin/nologin",
    "www-data:x:33:33:www-data:/var/www:/usr/sbin/nologin",
    "backup:x:34:34:backup:/var/backups:/usr/sbin/nologin",
    "list:x:38:38:Mailing List Manager:/var/list:/usr/sbin/nologin",
    "irc:x:39:39:ircd:/run/ircd:/usr/sbin/nologin",
    "_apt:x:42:65534::/nonexistent:/usr/sbin/nologin",
    "nobody:x:65534:65534:nobody:/nonexistent:/usr/sbin/nologin"]

def home? (name : List Char) : Option (List Char) :=
  accounts.findSome? fun account =>
    let fields := Text.splitAt ':' account.toList
    if fields.head? = some name then fields[5]? else none

def place (path : String) : List FileName :=
  Text.splitAt '/' path.toList

/-- Whatever is written there is gone. -/
def nullPlace : List FileName := place "dev/null"

def programPlace : List FileName := place "usr/bin"

def directories : List String :=
  ["boot", "dev", "etc", "home", "media", "mnt", "opt", "proc", "root", "run", "srv", "sys", "tmp",
    "usr", "usr/bin", "usr/games", "usr/include", "usr/lib", "usr/local", "usr/local/bin",
    "usr/sbin", "usr/share", "usr/src", "var", "var/cache", "var/lib", "var/log", "var/tmp"]

/-- Directories that are but other names. -/
def links : List (String × String) :=
  [("bin", "usr/bin"), ("sbin", "usr/sbin"), ("lib", "usr/lib")]

/-- What is on the system, with files for these programs. -/
def entries (programs : List String) : List (List FileName × Entry) :=
  (directories.map fun path => (place path, Entry.directory))
    ++ (links.map fun l => (place l.1, Entry.link l.2.toList))
    ++ [(nullPlace, .file []),
      (place "etc/passwd", .file (("\n".intercalate accounts ++ "\n").toUTF8.toList))]
    ++ programs.map fun name => (programPlace ++ [name.toList], .file [])

/-- A disk with what it lacks of the system, and that. -/
def lend (programs : List String) (disk : Disk) : Disk × List (List FileName × Entry) :=
  let lacking := (entries programs).filter fun e => (disk.entryAt? e.1).isNone
  (.ofEntries (disk.entries ++ lacking), lacking)

/-- Takes back what was lent, in so far as it is as it was. -/
def takeBack (lent : List (List FileName × Entry)) (disk : Disk) : Disk :=
  lent.reverse.foldl (fun disk e =>
    if disk.entryAt? e.1 = some e.2 && (disk.names e.1).isEmpty then disk.remove e.1 else disk) disk

end LintDispatch.Shell.System
