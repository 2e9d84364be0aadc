import Qasedak.Backup.Accepted

/-! `write_checksums` and `create_archive`: a staging directory is listed and packed. -/

namespace Qasedak.Backup

open Foundation Payments Store

/-! ## The staging directory -/

inductive StagedNode where
  | file (inode : ℕ) (content : Bytes)
  | dir
  | symlink
  /-- A device or a pipe. -/
  | device
  | socket
  deriving DecidableEq, Repr

structure StagedEntry where
  path : List FileName
  node : StagedNode
  mode : ℕ := 0o100644
  deriving DecidableEq, Repr

/-- A name that a file system gives to an entry. -/
def ValidPart (part : FileName) : Prop :=
  part ≠ [] ∧ slash ∉ part ∧ .char (Char.ofNat 0) ∉ part ∧ part ≠ ofText ['.'] ∧
    part ≠ ofText ['.', '.']

instance (part : FileName) : Decidable (ValidPart part) := inferInstanceAs (Decidable (_ ∧ _))

/-- Each entry comes after the directories above it. -/
def ParentsFirst (before : List StagedEntry) : List StagedEntry → Prop
  | [] => True
  | e :: rest =>
      (∀ dir ∈ upperDirs e.path, dir ≠ [] → ∃ d ∈ before, d.path = dir ∧ d.node = .dir) ∧
        ParentsFirst (before ++ [e]) rest

/-- What `sorted(staging_dir.rglob("*"))` lists, with what each entry is. -/
structure StagingTree where
  entries : List StagedEntry
  paths_nodup : (entries.map StagedEntry.path).Nodup
  paths_valid : ∀ e ∈ entries, e.path ≠ [] ∧ ∀ part ∈ e.path, ValidPart part
  parents_first : ParentsFirst [] entries

/-! ## `write_checksums` -/

/-- The name as a text, unless it holds bytes that are none. -/
def text? : FileName → Option (List Char)
  | [] => some []
  | .char c :: name => (text? name).map (c :: ·)
  | .escaped _ :: _ => none

/-- The regular files, but for the list itself. -/
def listedFiles (entries : List StagedEntry) : List (List FileName × Bytes) :=
  entries.filterMap fun e =>
    match e.node with
    | .file _ content => if e.path = [checksumsName] then none else some (e.path, content)
    | _ => none

/-- A line of the list, with its newline. -/
def checksumLineOf (py : Python) (content : Bytes) (rel : List Char) : List Char :=
  py.sha256 content ++ ' ' :: ' ' :: rel ++ ['\n']

/-- The text of the list. -/
def checksumText (py : Python) (files : List (List FileName × Bytes)) : Option (List Char) :=
  (files.mapM fun f => (text? (asPosix f.1)).map (checksumLineOf py f.2)).map List.flatten

/-- The code point of a character, by which names are sorted. -/
def NameChar.codePoint : NameChar → ℕ
  | .char c => c.toNat
  | .escaped byte => 0xDC80 + byte

/-- The entry is sorted before the list. -/
def beforeChecksums (e : StagedEntry) : Bool :=
  e.path.map (List.map NameChar.codePoint) < [checksumsName.map NameChar.codePoint]

/-- A file that does not exist yet. -/
def freshInode (entries : List StagedEntry) : ℕ :=
  entries.foldr (fun e n =>
    match e.node with
    | .file inode _ => max (inode + 1) n
    | _ => n) 0

/-- A file is written over, under each of its names. -/
def overwrite (inode : ℕ) (content : Bytes) (e : StagedEntry) : StagedEntry :=
  match e.node with
  | .file i _ => if i = inode then { e with node := .file i content } else e
  | _ => e

/-- `checksum_path.write_text`. Through a link, or into a pipe, the text goes elsewhere. -/
def putChecksums (content : Bytes) (entries : List StagedEntry) :
    Except BackupError (List StagedEntry) :=
  match entries.find? (·.path = [checksumsName]) with
  | none =>
      .ok (entries.takeWhile beforeChecksums ++
        { path := [checksumsName], node := .file (freshInode entries) content } ::
          entries.dropWhile beforeChecksums)
  | some e =>
      match e.node with
      | .file inode _ => .ok (entries.map (overwrite inode content))
      | .symlink | .device => .ok entries
      | .dir | .socket => .error .osError

/-- `write_checksums`, with the entries after it. -/
def writeChecksums (py : Python) (entries : List StagedEntry) :
    Except BackupError (List StagedEntry) :=
  match checksumText py (listedFiles entries) with
  | none => .error .osError
  | some text => putChecksums (utf8 text) entries

/-! ## `create_archive` -/

/-- The members that `tar.add` makes of the entries. A file that was added before under another name
becomes a link to it, and a socket is left out. -/
def archiveMembers (seen : List ℕ) : List StagedEntry → List Member
  | [] => []
  | e :: rest =>
      let member (kind : MemberKind) (content : Bytes) : Member :=
        { name := asPosix e.path, kind, mode := e.mode % 0o10000, content }
      match e.node with
      | .file inode content =>
          member (if inode ∈ seen then .hardLink else .regular) content ::
            archiveMembers (inode :: seen) rest
      | .dir => member .directory [] :: archiveMembers seen rest
      | .symlink => member .symbolicLink [] :: archiveMembers seen rest
      | .device => member .device [] :: archiveMembers seen rest
      | .socket => archiveMembers seen rest

/-- The archive that `write_checksums` and `create_archive` make. -/
def makeArchive (py : Python) (tree : StagingTree) : Except BackupError (List Member) :=
  (writeChecksums py tree.entries).map (archiveMembers [])

end Qasedak.Backup
