import PseudoTerm.Programs.Text
import PseudoTerm.Programs.Basic
import PseudoTerm.Programs.Stty
import PseudoTerm.Programs.Ends
import PseudoTerm.Programs.Sorting
import PseudoTerm.Programs.Fields
import PseudoTerm.Programs.Lines
import PseudoTerm.Programs.Encoding
import PseudoTerm.Programs.Sequence
import PseudoTerm.Programs.Dump
import PseudoTerm.Programs.Directory
import PseudoTerm.Programs.Selecting
import PseudoTerm.Programs.Expression
import PseudoTerm.Programs.Editing.Run
import PseudoTerm.Awk.Program
import PseudoTerm.Programs.Files
import PseudoTerm.Programs.Plumbing
import PseudoTerm.Programs.Checksum
import PseudoTerm.Shell.Start

/-!
# The standard images

The programs every machine has, by the image names of the standard file tree.
-/

namespace PseudoTerm.Programs

open PseudoTerm.Machine

variable {μ : Type}

/-- The program of a standard image. -/
def standardImage (name : String) : Option (Invocation → Prog μ Unit) :=
  match name with
  | "dash" => some Shell.shellProgram
  | "cat" => some catProgram
  | "tr" => some trProgram
  | "wc" => some wcProgram
  | "head" => some headProgram
  | "sort" => some sortProgram
  | "cut" => some cutProgram
  | "paste" => some pasteProgram
  | "rev" => some revProgram
  | "tac" => some tacProgram
  | "fold" => some foldProgram
  | "nl" => some nlProgram
  | "base64" => some base64Program
  | "od" => some odProgram
  | "uniq" => some uniqProgram
  | "tail" => some tailProgram
  | "yes" => some yesProgram
  | "stty" => some sttyProgram
  | "true" => some trueProgram
  | "false" => some falseProgram
  | "echo" => some echoProgram
  | "printf" => some printfProgram
  | "sleep" => some sleepProgram
  | "seq" => some seqProgram
  | "pwd" => some pwdProgram
  | "id" => some idProgram
  | "uname" => some unameProgram
  | "tty" => some ttyProgram
  | "env" => some envProgram
  | "setsid" => some setsidProgram
  | "kill" => some killProgram
  | "test" => some testProgram
  | "basename" => some basenameProgram
  | "dirname" => some dirnameProgram
  | "mkdir" => some mkdirProgram
  | "touch" => some touchProgram
  | "rm" => some rmProgram
  | "ls" => some lsProgram
  | "grep" => some grepProgram
  | "sed" => some sedProgram
  | "expr" => some exprProgram
  | "mawk" => some Awk.awkProgram
  | "rmdir" => some rmdirProgram
  | "mv" => some mvProgram
  | "cp" => some cpProgram
  | "ln" => some lnProgram
  | "chmod" => some chmodProgram
  | "readlink" => some readlinkProgram
  | "realpath" => some realpathProgram
  | "tee" => some teeProgram
  | "xargs" => some xargsProgram
  | "printenv" => some printenvProgram
  | "whoami" => some whoamiProgram
  | "which" => some whichProgram
  | "md5sum" | "sha1sum" | "sha224sum" | "sha256sum" | "sha384sum" | "sha512sum" => some digestProgram
  | "cksum" => some cksumProgram
  | _ => none

end PseudoTerm.Programs
