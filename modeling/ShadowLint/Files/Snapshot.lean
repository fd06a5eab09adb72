import ShadowLint.Files.Path

/-!
# Snapshots of a file system

What a run reads from a file system does not change while it runs, so it is given to it as
a `Snapshot`: what stands at each path.  `Snapshot.ofTree` is the snapshot of a tree of
files as it is seen from one of its directories.
-/

namespace ShadowLint.Files

/-- What stands at a path. -/
inductive Entry where
  | file (content : ByteArray)
  | directory
  | absent
  /-- The path goes on below a file. -/
  | belowFile
  /-- What is no regular file can be read like one, such as a pipe. -/
  | stream (content : ByteArray)
  /-- The system refuses to read what stands there for another reason, which it gives in its
  own words. -/
  | refused (regular : Bool) (reason : String)

/-- Why a file was not read as a text. -/
inductive ReadError where
  | absent
  | directory
  | belowFile
  /-- The bytes are not UTF-8. -/
  | notText
  /-- Another refusal, in the words of the system. -/
  | refused (reason : String)
  deriving DecidableEq, Repr

/-- The text that a failed read is reported with. -/
def ReadError.message : ReadError → String
  | .absent => "No such file or directory (os error 2)"
  | .directory => "Is a directory (os error 21)"
  | .belowFile => "Not a directory (os error 20)"
  | .notText => "stream did not contain valid UTF-8"
  | .refused reason => reason

/-- Whether a regular file stands there. -/
def Entry.isFile : Entry → Bool
  | .file _ => true
  | .refused regular _ => regular
  | _ => false

/-- The text that some bytes are. -/
def decodeText (content : ByteArray) : Except ReadError String :=
  match String.fromUTF8? content with
  | some text => .ok text
  | none => .error .notText

theorem decodeText_toUTF8 (text : String) : decodeText text.toUTF8 = .ok text := by
  have valid : text.toUTF8.IsValidUTF8 := text.isValidUTF8
  unfold decodeText String.fromUTF8?
  rw [dif_pos valid]
  rfl

/-- The text of a file. -/
def Entry.text : Entry → Except ReadError String
  | .file content => decodeText content
  | .stream content => decodeText content
  | .refused _ reason => .error (.refused reason)
  | .directory => .error .directory
  | .absent => .error .absent
  | .belowFile => .error .belowFile

/-- What stands at each path. -/
structure Snapshot where
  entry : String → Entry

namespace Snapshot

/-- The snapshot in which nothing stands but what is listed. -/
def ofList (entries : List (String × Entry)) : Snapshot :=
  ⟨fun path => (entries.lookup path).getD .absent⟩

/-- Whether a regular file stands at a path. -/
def isFile (snapshot : Snapshot) (path : String) : Bool := (snapshot.entry path).isFile

/-- The text of the file at a path. -/
def readText (snapshot : Snapshot) (path : String) : Except ReadError String :=
  (snapshot.entry path).text

theorem readText_of_file {snapshot : Snapshot} {path text : String}
    (holds : snapshot.entry path = .file text.toUTF8) : snapshot.readText path = .ok text := by
  rw [readText, holds]
  exact decodeText_toUTF8 text

end Snapshot

/-! ## Trees -/

/-- A tree of files and directories.  A directory that something lies in need not be listed. -/
structure Tree where
  /-- The components of the path of each item, and the content of a file. -/
  items : List (List String × Option ByteArray)

namespace Tree

/-- What stands at the end of some components from the root on. -/
def entryAt (tree : Tree) (components : List String) : Entry :=
  match tree.items.lookup components with
  | some (some content) => .file content
  | some none => .directory
  | none =>
      if components.isEmpty || tree.items.any fun item => components.isPrefixOf item.1 then
        .directory
      else .absent

/-- What stands at the end of a way from a place. -/
def follow (tree : Tree) (place : List String) : List String → Entry
  | [] => tree.entryAt place
  | component :: way =>
      match tree.entryAt place with
      | .directory =>
          if component = "" ∨ component = "." then tree.follow place way
          else if component = ".." then tree.follow place.dropLast way
          else tree.follow (place ++ [component]) way
      | .file _ => .belowFile
      | other => other

end Tree

/-- A tree of files as it is seen from a directory. -/
def Snapshot.ofTree (tree : Tree) (here : List String) : Snapshot :=
  ⟨fun path =>
    if path.isEmpty then .absent
    else if path.toList.head? = some '/' then tree.follow [] (path.splitOn "/")
    else tree.follow here (path.splitOn "/")⟩

end ShadowLint.Files
