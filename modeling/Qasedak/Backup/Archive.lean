import Qasedak.Foundation.Percent
import Qasedak.Payments.SmsFaithful
import Qasedak.Store.Naming
import Mathlib.Data.List.Infix

/-! `store/backup_restore_services.py`: what is taken out of a backup archive, and how the list of
its checksums is read and verified. -/

namespace Qasedak.Backup

open Foundation Payments Store

/-! ## Paths -/

/-- A character of a file name; a byte that is no UTF-8 stands for itself. -/
inductive NameChar where
  | char (c : Char)
  | escaped (byte : Fin 128)
  deriving DecidableEq, Repr

abbrev FileName := List NameChar

def ofText (cs : List Char) : FileName := cs.map .char

def slash : NameChar := .char '/'

/-- `PurePosixPath(name).parts`, but for the root. -/
def pathParts (name : FileName) : List FileName :=
  (name.splitOn slash).filter fun part => part ≠ [] ∧ part ≠ ofText ['.']

/-- `is_absolute`. -/
def isAbsolute (name : FileName) : Bool := name.head? = some slash

/-- `detect_path_traversal`. -/
def detectPathTraversal (name : FileName) : Bool :=
  isAbsolute name || (pathParts name).contains (ofText ['.', '.'])

/-- `as_posix`. -/
def asPosix (path : List FileName) : FileName := [slash].intercalate path

def manifestName : FileName := ofText "manifest.json".toList

def checksumsName : FileName := ofText "checksums.sha256".toList

/-! ## The extracted files -/

abbrev Bytes := List UInt8

/-- What stands at a path. -/
inductive Node where
  | dir
  | file (content : Bytes)
  deriving DecidableEq, Repr

/-- A directory with all that it holds, by the paths from it. -/
abbrev FileTree := List FileName → Option Node

def emptyDir : FileTree := fun path => if path = [] then some .dir else none

def FileTree.set (files : FileTree) (path : List FileName) (node : Node) : FileTree :=
  fun p => if p = path then some node else files p

/-- The files below a directory. -/
def FileTree.below (files : FileTree) (root : List FileName) : FileTree := fun path =>
  files (root ++ path)

/-! ## Errors -/

inductive BackupError where
  /-- "Archive contains an unsafe path." -/
  | unsafePath
  /-- "Archive contains a link entry, which is not allowed." -/
  | linkEntry
  /-- "Archive contains a special file, which is not allowed." -/
  | specialFile
  /-- "Archive extracted size exceeds the configured limit." -/
  | extractedSize
  /-- "Backup manifest is not valid JSON.", or "Backup manifest must be a JSON object." -/
  | manifest
  /-- "checksums.sha256 contains an invalid line." -/
  | invalidLine
  /-- "checksums.sha256 contains an unsafe path." -/
  | unsafeLine
  /-- "Backup checksums are missing." -/
  | checksumsMissing
  /-- "Backup checksum path is unsafe." -/
  | unsafeChecksumPath
  /-- "Checksum target is missing or unsafe: …". -/
  | targetMissing
  /-- "Checksum mismatch for …". -/
  | checksumMismatch
  /-- An `OSError`, or a text that cannot be encoded or decoded. -/
  | osError
  deriving DecidableEq, Repr

/-! ## `safe_extract_archive` -/

/-- What the type flag of a member says. -/
inductive MemberKind where
  | regular
  | directory
  | symbolicLink
  | hardLink
  /-- A character or block device or a pipe. -/
  | device
  /-- A flag that `tarfile` does not know; it extracts a regular file. -/
  | unknown
  deriving DecidableEq, Repr

structure Member where
  name : FileName
  kind : MemberKind
  mode : ℕ := 0o644
  content : Bytes := []
  deriving DecidableEq, Repr

/-- `stat.S_ISFIFO`. -/
def isFifoMode (mode : ℕ) : Bool := mode / 0o10000 % 0o20 = 1

/-- One turn of the loop of `safe_extract_archive`, with the size so far. -/
def checkMember (maxSize totalSize : ℕ) (m : Member) : Except BackupError ℕ :=
  if detectPathTraversal m.name then .error .unsafePath
  else if m.kind = .symbolicLink ∨ m.kind = .hardLink then .error .linkEntry
  else if m.kind = .device ∨ isFifoMode m.mode then .error .specialFile
  else if m.kind = .regular then
    if maxSize < totalSize + m.content.length then .error .extractedSize
    else .ok (totalSize + m.content.length)
  else .ok totalSize

/-- The member leaves a regular file. -/
def Member.IsFile (m : Member) : Bool := m.kind = .regular ∨ m.kind = .unknown

/-- The directories above a path, from the extraction directory on. -/
def upperDirs (path : List FileName) : List (List FileName) := path.inits.dropLast

def FileTree.isFile (files : FileTree) (path : List FileName) : Bool :=
  match files path with
  | some (.file _) => true
  | _ => false

/-- `os.makedirs`. -/
def FileTree.makeDirs (files : FileTree) (dirs : List (List FileName)) : FileTree := fun path =>
  if path ∈ dirs then some .dir else files path

/-- A member as `extractall` writes it: the directories above it are made, a file is written over
one of its name, and neither a file nor a directory takes the place of the other. Links and special
files do not come here. -/
def extractMember (files : FileTree) (m : Member) : Except BackupError FileTree :=
  let path := pathParts m.name
  if .char (Char.ofNat 0) ∈ m.name ∨ (upperDirs path).any files.isFile then .error .osError
  else if m.IsFile then
    if files path = some .dir then .error .osError
    else .ok ((files.makeDirs (upperDirs path)).set path (.file m.content))
  else if files.isFile path then .error .osError
  else .ok ((files.makeDirs (upperDirs path)).set path .dir)

/-- `safe_extract_archive`. -/
def safeExtractArchive (maxSize : ℕ) (members : List Member) : Except BackupError FileTree := do
  let _ ← members.foldlM (checkMember maxSize) 0
  members.foldlM extractMember emptyDir

/-! ## The payload -/

/-- `backup_payload_root`: the directory itself where `manifest.json` exists in it, and otherwise a
directory in it where that exists. The order in which these are listed is the file system's. -/
def PayloadRoot (files : FileTree) (root : List FileName) : Prop :=
  if files [manifestName] = none then
    ∃ child, root = [child] ∧ files [child] = some .dir ∧ files [child, manifestName] ≠ none
  else root = []

/-- The checksums, in the order of the dict. -/
abbrev Checksums := List (FileName × List Char)

/-- A value of the manifest where checksums may stand. -/
inductive ManifestField where
  /-- None, or a value that is false and no dict. -/
  | falsy
  | dict (items : Checksums)
  /-- A value that is true and no dict. -/
  | other
  deriving DecidableEq, Repr

/-- The value counts as true. -/
def ManifestField.isTrue : ManifestField → Bool
  | .falsy => false
  | .dict items => items ≠ []
  | .other => true

/-- What is read of a manifest: `checksums` and `file_checksums_sha256`. -/
structure Manifest where
  checksums : ManifestField := .falsy
  fileChecksums : ManifestField := .falsy
  deriving DecidableEq, Repr

/-- What the code uses of Python. -/
structure Python where
  /-- `hashlib.sha256(content).hexdigest()`. -/
  sha256 : Bytes → List Char
  sha256_length : ∀ content, (sha256 content).length = 64
  sha256_hex : ∀ content, ∀ c ∈ sha256 content, c.isDigit ∨ ('a' ≤ c ∧ c ≤ 'f')
  /-- `json.loads` of a text that holds an object; none of any other. -/
  loads : List Char → Option Manifest
  /-- `str.lower`. -/
  lower : List Char → List Char

section Verify

variable (py : Python) (payload : FileTree)

/-- The newlines of a file that is read as a text. -/
def universalNewlines : List Char → List Char
  | [] => []
  | '\r' :: '\n' :: cs => '\n' :: universalNewlines cs
  | c :: cs => (if c = '\r' then '\n' else c) :: universalNewlines cs

/-- The manifest in a file. -/
def manifestOf (content : Bytes) : Option Manifest :=
  (utf8Decode content).bind fun text => py.loads (universalNewlines text)

/-- `read_manifest`. -/
def readManifest : Except BackupError Manifest :=
  match payload [manifestName] with
  | some (.file content) =>
      match manifestOf py content with
      | some manifest => .ok manifest
      | none => .error .manifest
  | _ => .error .osError

/-- `checksums[rel] = digest`. -/
def setItem (rel : FileName) (digest : List Char) : Checksums → Checksums
  | [] => [(rel, digest)]
  | (key, value) :: rest =>
      if key = rel then (key, digest) :: rest else (key, value) :: setItem rel digest rest

/-- The digest and the path of a line. -/
def splitLine (line : List Char) : List Char × List Char :=
  (line.takeWhile (!isSpace ·), (line.dropWhile (!isSpace ·)).dropWhile isSpace)

/-- `rel.strip().lstrip("*")`. -/
def cleanRel (rel : List Char) : List Char := (stripChars isSpace rel).dropWhile (· = '*')

/-- One turn of the loop of `checksums_from_file`. -/
def checksumLine (checksums : Checksums) (line : List Char) : Except BackupError Checksums :=
  let line := stripChars isSpace line
  if line = [] then .ok checksums
  else if (splitLine line).2 = [] then .error .invalidLine
  else
    let rel := ofText (cleanRel (splitLine line).2)
    if detectPathTraversal rel then .error .unsafeLine
    else .ok (setItem rel (splitLine line).1 checksums)

/-- The checksums in a file. -/
def checksumsOf (content : Bytes) : Except BackupError Checksums :=
  (splitlines (universalNewlines (utf8Replace content))).foldlM checksumLine []

/-- `checksums_from_file`. -/
def checksumsFromFile : Except BackupError (Option Checksums) :=
  match payload [checksumsName] with
  | none => .ok none
  | some .dir => .error .osError
  | some (.file content) => (checksumsOf content).map some

/-- `checksums_from_manifest`. -/
def checksumsFromManifest (manifest : Manifest) : Option Checksums :=
  match if manifest.checksums.isTrue then manifest.checksums else manifest.fileChecksums with
  | .dict items => some items
  | _ => none

/-- One turn of the loop of `verify_checksums`. -/
def verifyChecksum (entry : FileName × List Char) : Except BackupError Unit :=
  if detectPathTraversal entry.1 then .error .unsafeChecksumPath
  else
    match payload (pathParts entry.1) with
    | some (.file content) =>
        if py.lower (py.sha256 content) = py.lower entry.2 then .ok ()
        else .error .checksumMismatch
    | _ => .error .targetMissing

/-- `verify_checksums` of a payload, with the checksums that it verified. -/
def verifyChecksums : Except BackupError Checksums := do
  let manifest ← readManifest py payload
  let fromFile ← checksumsFromFile payload
  match fromFile.or (checksumsFromManifest manifest) with
  | none => .error .checksumsMissing
  | some checksums =>
      if checksums = [] then .error .checksumsMissing
      else (checksums.forM (verifyChecksum py payload)).map fun _ => checksums

end Verify

end Qasedak.Backup
