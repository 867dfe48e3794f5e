/-
Reading a source file.

A file is read unless it is larger than allowed, cannot be read, or is not UTF-8 text.
All three spellings of a line end become a line feed.
-/
import SpokenIndex.Disk.Basic
import SpokenIndex.Source.Utf8

namespace SpokenIndex

/-- Why a file gives no text. -/
inductive ReadingFault where
  | tooLarge
  | unreadable (fault : Fault) (path : String)
  | notText (fault : Utf8.Fault)
  deriving DecidableEq, Repr

/-- The fault as a message. -/
def ReadingFault.message : ReadingFault → String
  | tooLarge => "File too large to scan"
  | unreadable fault path => "Cannot read file: " ++ fault.message path
  | notText fault => "Not a UTF-8 text file: " ++ fault.message

/-- A text with every line end as a line feed. -/
def plainLineEnds : List Char → List Char
  | '\r' :: '\n' :: rest => '\n' :: plainLineEnds rest
  | '\r' :: rest => '\n' :: plainLineEnds rest
  | c :: rest => c :: plainLineEnds rest
  | [] => []

/-- The text that bytes make. -/
def textOfBytes (content : ByteArray) : Except Utf8.Fault String :=
  (Utf8.decode content.data.toList).map fun chars => String.ofList (plainLineEnds chars)

/-- The text of a file of at most `limit` bytes, if there is a limit. -/
def Disk.readSource (disk : Disk) (limit : Option Int) (path : String) :
    Except ReadingFault String :=
  let oversize : Except Fault Bool :=
    match limit with
    | none => .ok false
    | some limit => (disk.size path).map fun size => decide (limit < size)
  match oversize with
  | .error fault => .error (.unreadable fault path)
  | .ok true => .error .tooLarge
  | .ok false =>
    match disk.read path with
    | .error fault => .error (.unreadable fault path)
    | .ok content =>
      match textOfBytes content with
      | .ok text => .ok text
      | .error fault => .error (.notText fault)

end SpokenIndex
