import AsnLexis.Error

/-! What can be wrong with the path of a file. -/

namespace AsnLexis

inductive FileFault where
  /-- Nothing in memory is kept under the path. -/
  | unknown
  | missing
  | notDirectory
  | isDirectory
  | nameTooLong
  | invalidName
  deriving DecidableEq, Repr

namespace FileFault

def reason : FileFault → String
  | unknown => "file does not exist"
  | missing => "no such file or directory"
  | notDirectory => "not a directory"
  | isDirectory => "is a directory"
  | nameTooLong => "file name too long"
  | invalidName => "invalid argument"

def error (fault : FileFault) (operation : String) (path : Bytes) : Error :=
  .ofText (utf8 operation ++ utf8 " " ++ path ++ utf8 ": " ++ utf8 fault.reason)

end FileFault

end AsnLexis
