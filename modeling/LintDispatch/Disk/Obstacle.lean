import LintDispatch.Console.Report
import LintDispatch.Disk.Tree
import LintDispatch.Text.Printable

/-! Obstacles as the system tells of them: by number, in words, and with the path as written. -/

namespace LintDispatch.Disk.Obstacle

def number : Obstacle → Nat
  | .missing => 2
  | .notDirectory => 20
  | .isDirectory => 21
  | .nameTooLong => 36
  | .tooManyLinks => 40

def text : Obstacle → String
  | .missing => "No such file or directory"
  | .notDirectory => "Not a directory"
  | .isDirectory => "Is a directory"
  | .nameTooLong => "File name too long"
  | .tooManyLinks => "Too many levels of symbolic links"

def kind : Obstacle → String
  | .missing => "FileNotFoundError"
  | .notDirectory => "NotADirectoryError"
  | .isDirectory => "IsADirectoryError"
  | .nameTooLong => "OSError"
  | .tooManyLinks => "OSError"

def report (o : Obstacle) (written : String) : Report :=
  .plain o.kind ("[Errno " ++ toString o.number ++ "] " ++ o.text ++ ": " ++ Text.quoted written)

end LintDispatch.Disk.Obstacle
