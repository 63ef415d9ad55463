import PseudoTerm.Errno
import PseudoTerm.Path
import PseudoTerm.Account
import PseudoTerm.Machine.Program

/-!
# The file tree

Files are numbered nodes: directories listing named entries, regular files holding
bytes, symbolic links, devices, and program images (regular files that the machine
knows how to run).  Node 0 is the root.

A path is looked up one element at a time from the root or from the working directory.
`..` goes back one directory (at the root it stays).  Links met on the way are
followed, and the last element's link too unless asked not to; more than 40 links in
one lookup is a loop.  A missing element is `ENOENT`, an element under something that
is not a directory `ENOTDIR`.

Two directories are made up on demand: the directory of terminal child devices, whose
entries are the numbers of the open pseudo terminals, and the directory of the
looking-up process's own descriptors.
-/

namespace PseudoTerm.Machine

/-- A device node. -/
inductive Device where
  | null
  | zero
  | full
  | random
  /-- Opening it makes a new pseudo terminal and answers its parent side. -/
  | terminalMaker
  /-- The opener's controlling terminal. -/
  | ownTerminal
  /-- The directory of terminal child devices. -/
  | terminalDirectory
  /-- The directory of the opener's descriptors. -/
  | descriptorDirectory
  deriving DecidableEq, Repr, Inhabited

/-- A node of the tree. -/
inductive Node where
  | directory (entries : List (String × Nat)) (mode : Nat)
  | file (data : ByteArray) (mode : Nat)
  | link (target : String)
  | device (d : Device)
  | program (image : String) (mode : Nat)
  deriving Inhabited

/-- Where a path leads: a node, the child side of a terminal, or a descriptor. -/
inductive Place where
  | node (n : Nat)
  | terminal (index : Nat)
  | descriptor (fd : Nat)
  deriving DecidableEq, Repr, Inhabited

/-- The file tree. -/
structure Tree where
  nodes : Array Node := #[.directory [] 0o755]
  deriving Inhabited

namespace Node

/-- What a status request tells about a node. -/
def status : Node → FileStatus
  | .directory _ mode => ⟨.directory, mode, 4096⟩
  | .file data mode => ⟨.regular, mode, data.size⟩
  | .link target => ⟨.symlink, 0o777, target.utf8ByteSize⟩
  | .device .terminalDirectory => ⟨.directory, 0o755, 0⟩
  | .device .descriptorDirectory => ⟨.directory, 0o500, 0⟩
  | .device _ => ⟨.characterDevice, 0o666, 0⟩
  | .program _ mode => ⟨.regular, mode, 0⟩

/-- Whether a node is a directory, made up or not. -/
def isDirectory : Node → Bool
  | .directory .. => true
  | .device .terminalDirectory => true
  | .device .descriptorDirectory => true
  | _ => false

end Node

namespace Tree

/-- The node numbered `n`. -/
def get? (t : Tree) (n : Nat) : Option Node := t.nodes[n]?

/-- The entry `name` of directory node `n`. -/
def entry? (t : Tree) (n : Nat) (name : String) : Option Nat :=
  match t.get? n with
  | some (.directory entries _) => entries.lookup name
  | _ => none

/-- Whether a text is a plain decimal number. -/
def decimal? (s : String) : Option Nat :=
  if !s.isEmpty && s.all Char.isDigit then s.toNat? else none

/-- The most links one lookup follows. -/
def linkLimit : Nat := 40

/-- Look up the elements `parts` from the directory stack `stack` (innermost first).
`links` counts the links still allowed. -/
def walk (t : Tree) (follow : Bool) : Nat → List Nat → List String → Except Errno Place
  | 0, _, _ => .error ⟨40⟩
  | _ + 1, [], _ => .error Errno.enoent
  | _ + 1, current :: _, [] => .ok (.node current)
  | fuel + 1, stack@(current :: up), part :: rest =>
    if part == "." || part == ".." then
      -- only a directory has the entries `.` and `..`
      match t.get? current with
      | some (.directory ..) | some (.device .terminalDirectory) | some (.device .descriptorDirectory) =>
        if part == "." then walk t follow fuel stack rest
        else walk t follow fuel (if up.isEmpty then stack else up) rest
      | _ => .error Errno.enotdir
    else
      match t.get? current with
      | some (.directory entries _) =>
        match entries.lookup part with
        | none => .error Errno.enoent
        | some n =>
          match t.get? n with
          | some (.link target) =>
            if rest.isEmpty && !follow then .ok (.node n)
            else
              let stack' := if Path.isAbsolute target then [0] else stack
              walk t follow fuel stack' (Path.elements target ++ rest)
          | _ => walk t follow fuel (n :: stack) rest
      | some (.device .terminalDirectory) =>
        match decimal? part with
        | some k => if rest.isEmpty then .ok (.terminal k) else .error Errno.enotdir
        | none => .error Errno.enoent
      | some (.device .descriptorDirectory) =>
        match decimal? part with
        | some k => if rest.isEmpty then .ok (.descriptor k) else .error Errno.enotdir
        | none => .error Errno.enoent
      | _ => .error Errno.enotdir

/-- The absolute form of a path given against a working directory. -/
def fullPath (cwd path : String) : String :=
  if Path.isAbsolute path then path else cwd ++ "/" ++ path

/-- Look up a path; `follow` says whether a link as last element is followed. -/
def locate (t : Tree) (cwd path : String) (follow : Bool := true) : Except Errno Place :=
  if path.isEmpty then .error Errno.enoent
  else
    -- a path ending in a slash names a directory
    let parts := Path.elements (fullPath cwd path) ++ (if path.endsWith "/" then ["."] else [])
    -- each link adds at most its own elements, so this bounds every lookup
    walk t follow (parts.length + linkLimit * 64 + 1) [0] parts

/-- The directory that would hold a new entry for `path`, and the entry's name. -/
def parentOf (t : Tree) (cwd path : String) : Except Errno (Nat × String) := do
  let full := fullPath cwd path
  let parts := Path.elements full
  match parts.getLast? with
  | none => .error Errno.eexist
  | some name =>
    match ← t.locate cwd ("/" ++ "/".intercalate parts.dropLast) with
    | .node n =>
      match t.get? n with
      | some (.directory ..) => .ok (n, name)
      | _ => .error Errno.enotdir
    | _ => .error Errno.enotdir

/-- Add a node as entry `name` of directory `dir`; answers the new node's number. -/
def attach (t : Tree) (dir : Nat) (name : String) (node : Node) : Tree × Nat :=
  let n := t.nodes.size
  let nodes := t.nodes.push node
  let nodes := nodes.modify dir fun
    | .directory entries mode => .directory (entries ++ [(name, n)]) mode
    | other => other
  (⟨nodes⟩, n)

/-- Replace node `n`. -/
def set (t : Tree) (n : Nat) (node : Node) : Tree := ⟨t.nodes.set! n node⟩

/-- Add entry `name` of directory `dir` for node `n`, which another entry may name too. -/
def addEntry (t : Tree) (dir : Nat) (name : String) (n : Nat) : Tree :=
  ⟨t.nodes.modify dir fun
    | .directory entries mode => .directory (entries ++ [(name, n)]) mode
    | other => other⟩

/-- Take entry `name` out of directory `dir`; the node stays for those who hold it open. -/
def dropEntry (t : Tree) (dir : Nat) (name : String) : Tree :=
  ⟨t.nodes.modify dir fun
    | .directory entries mode => .directory (entries.filter (·.1 != name)) mode
    | other => other⟩

/-- Whether node `target` is node `n` or lies somewhere below directory `n`. -/
def holds (t : Tree) : Nat → Nat → Nat → Bool
  | 0, _, _ => false
  | fuel + 1, n, target =>
    n == target ||
      match t.get? n with
      | some (.directory entries _) => entries.any fun (_, m) => holds t fuel m target
      | _ => false

/-- Set the permission bits of node `n`; nodes without any keep theirs. -/
def setMode (t : Tree) (n : Nat) (mode : Nat) : Tree :=
  match t.get? n with
  | some (.directory entries _) => t.set n (.directory entries mode)
  | some (.file data _) => t.set n (.file data mode)
  | some (.program image _) => t.set n (.program image mode)
  | _ => t

/-- Make the directories of an absolute path, as far as they are missing. -/
def ensureDirectory (t : Tree) (path : String) : Tree × Nat :=
  (Path.elements path).foldl (fun (acc : Tree × Nat) part =>
    let (t, dir) := acc
    match t.entry? dir part with
    | some n => (t, n)
    | none => t.attach dir part (.directory [] 0o755)) (t, 0)

/-- Put a node at an absolute path, making its directories. -/
def place (t : Tree) (path : String) (node : Node) : Tree :=
  let (t, dir) := t.ensureDirectory (Path.dir path)
  let name := Path.base path
  match t.entry? dir name with
  | some n => t.set n node
  | none => (t.attach dir name node).1

/-- The programs every machine has, by the name of their image, in `/usr/bin`. -/
def standardPrograms : List String :=
  ["dash", "cat", "tr", "stty", "seq", "sleep", "wc", "ls", "env", "setsid", "echo", "true",
   "false", "printf", "pwd", "kill", "test", "head", "tail", "yes", "tty", "id", "uname",
   "basename", "dirname", "mkdir", "touch", "rm", "date", "od", "sort", "uniq", "cut",
   "paste", "rev", "tac", "fold", "nl", "base64", "grep", "sed", "expr", "mawk", "rmdir", "mv",
   "cp", "ln", "chmod", "readlink", "realpath", "tee", "xargs", "printenv", "whoami", "which",
   "md5sum", "sha1sum", "sha224sum", "sha256sum", "sha384sum", "sha512sum", "cksum"]

/-- A machine's tree: the usual directories, devices, the standard programs (with
`sh`, `awk` and `[` as further names), the account table, and the extra program images given
by absolute path. -/
def standard (extra : List (String × String)) : Tree :=
  let t : Tree := {}
  let t := ["/usr/bin", "/usr/sbin", "/usr/lib", "/usr/local/bin", "/usr/local/sbin", "/etc",
            "/tmp", "/root", "/home", "/var/tmp", "/opt", "/dev/pts", "/proc/self", "/sys"].foldl
    (fun t p => (t.ensureDirectory p).1) t
  let t := t.place "/bin" (.link "usr/bin")
  let t := t.place "/sbin" (.link "usr/sbin")
  let t := t.place "/lib" (.link "usr/lib")
  let t := standardPrograms.foldl (fun t name => t.place ("/usr/bin/" ++ name) (.program name 0o755)) t
  let t := t.place "/usr/bin/sh" (.link "dash")
  let t := t.place "/usr/bin/awk" (.link "mawk")
  let t := t.place "/usr/bin/[" (.program "test" 0o755)
  let t := t.place "/dev/null" (.device .null)
  let t := t.place "/dev/zero" (.device .zero)
  let t := t.place "/dev/full" (.device .full)
  let t := t.place "/dev/random" (.device .random)
  let t := t.place "/dev/urandom" (.device .random)
  let t := t.place "/dev/tty" (.device .ownTerminal)
  let t := t.place "/dev/ptmx" (.device .terminalMaker)
  let t := t.set (t.locate "/" "/dev/pts" |>.toOption |>.bind (fun
      | .node n => some n
      | _ => none) |>.getD 0) (.device .terminalDirectory)
  let t := t.place "/proc/self/fd" (.device .descriptorDirectory)
  let t := t.place "/dev/fd" (.link "/proc/self/fd")
  let t := t.place "/dev/stdin" (.link "/proc/self/fd/0")
  let t := t.place "/dev/stdout" (.link "/proc/self/fd/1")
  let t := t.place "/dev/stderr" (.link "/proc/self/fd/2")
  let t := t.place "/etc/passwd" (.file Account.systemPasswd.toUTF8 0o644)
  extra.foldl (fun t (path, image) => t.place path (.program image 0o755)) t

end Tree

end PseudoTerm.Machine
