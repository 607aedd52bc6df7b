/-
# Stills in a folder

Each still becomes a file of its own.  The name of the file is the name of the session, with
every character that has no place in a file name replaced, and the number of the still within
its session, in at least three digits.  A file that cannot be written is passed over and its
number is used again.

Main definitions: `fileName`, `FolderSink.consume`.
-/
import SipStills.Bytes
import SipStills.Text.Digits

namespace SipStills

/-! ### Folders -/

/-- What a name in a folder stands for. -/
inductive FolderEntry where
  /-- A file and its content. -/
  | file (data : Bytes)
  /-- Another folder. -/
  | folder
deriving DecidableEq

/-- A folder: its names and what they stand for. -/
structure Folder where
  /-- The entries; no name occurs twice. -/
  entries : List (String × FolderEntry) := []
deriving DecidableEq

namespace Folder

/-- The largest number of bytes in a name. -/
def maxNameSize : Nat := 255

/-- What a name stands for. -/
def get? (f : Folder) (name : String) : Option FolderEntry :=
  (f.entries.find? fun x => x.1 == name).map (·.2)

/-- The folder without a name. -/
def erase (f : Folder) (name : String) : Folder := ⟨f.entries.filter fun x => x.1 != name⟩

/-- The folder with a name standing for something new. -/
def put (f : Folder) (name : String) (entry : FolderEntry) : Folder :=
  ⟨(name, entry) :: (f.erase name).entries⟩

/-- Writes a file over whatever file has its name.  A folder of that name is in the way, and
a name may be too long. -/
def write? (f : Folder) (name : String) (data : Bytes) : Option Folder :=
  if maxNameSize < name.utf8ByteSize then none
  else
    match f.get? name with
    | some .folder => none
    | _ => some (f.put name (.file data))

/-- Makes a folder inside the folder, if the name is free. -/
def makeFolder (f : Folder) (name : String) : Folder :=
  if maxNameSize < name.utf8ByteSize || (f.get? name).isSome then f else f.put name .folder

/-- Removes a folder inside the folder. -/
def removeFolder (f : Folder) (name : String) : Folder :=
  if f.get? name = some .folder then f.erase name else f

/-- The entries in the order of their names. -/
def listing (f : Folder) : List (String × FolderEntry) :=
  f.entries.mergeSort fun a b => decide (a.1 ≤ b.1)

end Folder

/-! ### File names -/

/-- Whether a character may stand in a file name: ASCII letters, digits and `-`, `_`, `.`,
`@`. -/
def isNameChar (c : Char) : Bool := c.isAlphanum || ['-', '_', '.', '@'].contains c

/-- A session's name as the start of a file name. -/
def sanitize (callee : String) : String :=
  let name := callee.toList.map fun c => if isNameChar c then c else '_'
  if name = [] then "unknown"
  else if name = ['.'] then "_"
  else if name = ['.', '.'] then "__"
  else String.ofList name

/-- A number in at least three digits. -/
def threeDigits (n : Nat) : List Char :=
  let ds := Text.digits n
  List.replicate (3 - ds.length) '0' ++ ds

/-- The name of a session's file of the given number. -/
def fileName (callee : String) (n : Nat) : String :=
  sanitize callee ++ "-" ++ String.ofList (threeDigits n) ++ ".jpeg"

/-! ### The sink -/

/-- A sink that writes stills into a folder. -/
structure FolderSink where
  /-- The folder, if it exists. -/
  folder : Option Folder
  /-- The number of files written for each session; it is taken to be less than `2 ^ 32`. -/
  counts : List (String × Nat) := []
deriving DecidableEq

namespace FolderSink

/-- The number of files written for a session. -/
def count (s : FolderSink) (callee : String) : Nat :=
  ((s.counts.find? fun x => x.1 == callee).map (·.2)).getD 0

/-- Sets the number of files written for a session. -/
def setCount (s : FolderSink) (callee : String) (n : Nat) : List (String × Nat) :=
  (callee, n) :: s.counts.filter fun x => x.1 != callee

/-- Writes a still of a session as the file of the next number. -/
def consume (s : FolderSink) (callee : String) (data : Bytes) : FolderSink :=
  match s.folder.bind fun f => f.write? (fileName callee (s.count callee)) data with
  | none => s
  | some folder => ⟨some folder, s.setCount callee (s.count callee + 1)⟩

end FolderSink
end SipStills
