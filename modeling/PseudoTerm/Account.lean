import PseudoTerm.Path

/-!
# User accounts

The login shell of a user comes from the account file, read line by line as a line
scanner yields it: split at newlines, one carriage return before a newline dropped, and
the scan stopped at the first line too long for the scanner's 64 KiB buffer.  The first
line that splits on `:` into exactly seven fields and whose first field is the user's
name gives its seventh field, and `/bin/sh` stands in for an empty field, a missing user
or a file that cannot be opened.  The shell of the current user is `$SHELL` when that is
set and not empty, otherwise the account file's.

A path that is `~` or starts with `~/` is rewritten under the user's home directory and
cleaned; every other path (`~user/x` included) is left as it is.
-/

namespace PseudoTerm.Account

/-- The shell used when the table gives none. -/
def fallbackShell : String := "/bin/sh"

/-- The pieces of a text between the occurrences of `c`. -/
def piecesAt (c : Char) (text : String) : List String :=
  (text.toList.splitOn c).map String.ofList

/-- The fields of an account line, between its colons. -/
def fields (line : String) : List String := piecesAt ':' line

/-- Whether `line` is an entry of `user`: exactly seven fields, the first the user's name. -/
def isEntryOf (user line : String) : Bool :=
  (fields line).length == 7 && (fields line).head? == some user

/-- The login shell of `user` in the lines of an account table. -/
def loginShell (table : List String) (user : String) : String :=
  match table.find? (isEntryOf user) with
  | some line =>
    let shell := (fields line).getD 6 ""
    if shell.isEmpty then fallbackShell else shell
  | none => fallbackShell

/-- The longest line, its newline included, that a line scanner's buffer holds. -/
def maxLineBytes : Nat := 65536

/-- The lines of a text, each without its newline; a final newline ends the last line
and starts no new one. -/
def splitLines (text : String) : List String :=
  let pieces := piecesAt '\n' text
  if pieces.getLast? = some "" then pieces.dropLast else pieces

/-- A line without the carriage return that may end it. -/
def dropCR (line : String) : String :=
  if line.toList.getLast? = some '\r' then String.ofList line.toList.dropLast else line

/-- The lines a line scanner yields: those before the first line too long for its buffer,
each without a final carriage return. -/
def scanLines (text : String) : List String :=
  ((splitLines text).takeWhile (fun line => line.utf8ByteSize < maxLineBytes)).map dropCR

/-- The login shell of `user` from the account file's text, `none` when the file cannot
be opened. -/
def userDefaultShell (passwd : Option String) (user : String) : String :=
  match passwd with
  | some text => loginShell (scanLines text) user
  | none => fallbackShell

/-- The user a program runs as: its name, home directory and the account file it sees
(`none` when that cannot be opened). -/
structure User where
  name : String
  home : String
  passwd : Option String
  deriving Repr, Inhabited

/-- The account table of the machine the programs run on. -/
def systemTable : List String :=
  [ "root:x:0:0:root:/root:/bin/bash",
    "daemon:x:1:1:daemon:/usr/sbin:/usr/sbin/nologin",
    "bin:x:2:2:bin:/bin:/usr/sbin/nologin",
    "sys:x:3:3:sys:/dev:/usr/sbin/nologin",
    "sync:x:4:65534:sync:/bin:/bin/sync",
    "games:x:5:60:games:/usr/games:/usr/sbin/nologin",
    "man:x:6:12:man:/var/cache/man:/usr/sbin/nologin",
    "lp:x:7:7:lp:/var/spool/lpd:/usr/sbin/nologin",
    "mail:x:8:8:mail:/var/mail:/usr/sbin/nologin",
    "news:x:9:9:news:/var/spool/news:/usr/sbin/nologin",
    "uucp:x:10:10:uucp:/var/spool/uucp:/usr/sbin/nologin",
    "proxy:x:13:13:proxy:/bin:/usr/sbin/nologin",
    "www-data:x:33:33:www-data:/var/www:/usr/sbin/nologin",
    "backup:x:34:34:backup:/var/backups:/usr/sbin/nologin",
    "list:x:38:38:Mailing List Manager:/var/list:/usr/sbin/nologin",
    "irc:x:39:39:ircd:/run/ircd:/usr/sbin/nologin",
    "_apt:x:42:65534::/nonexistent:/usr/sbin/nologin",
    "nobody:x:65534:65534:nobody:/nonexistent:/usr/sbin/nologin" ]

/-- The account file of the machine: its table, one line each. -/
def systemPasswd : String := String.intercalate "\n" systemTable ++ "\n"

/-- The administrator account the programs run as. -/
def administrator : User := ⟨"root", "/root", some systemPasswd⟩

/-- The login shell of the user a lookup of the current user found, the fallback when the
lookup failed. -/
def lookedUpShell : Option User → String
  | some u => userDefaultShell u.passwd u.name
  | none => fallbackShell

/-- The shell of the current user: `$SHELL` when set and not empty, else the login shell of
the user the lookup `u` found. -/
def currentShell (u : Option User) (shellVariable : Option String) : String :=
  match shellVariable with
  | some s => if s.isEmpty then lookedUpShell u else s
  | none => lookedUpShell u

/-- Whether a path is `~` or starts with `~/`, and so names a place under the home directory. -/
def homeRelative (path : String) : Bool := path.startsWith "~/" || path == "~"

/-- `~` and `~/…` under the home directory; any other path unchanged. -/
def expandHome (home path : String) : String :=
  if homeRelative path then
    Path.join [home, String.ofList (path.toList.drop 1)]
  else path

end PseudoTerm.Account
