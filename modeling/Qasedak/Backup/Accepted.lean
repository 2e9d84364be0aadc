import Qasedak.Backup.Archive

/-! # What an accepted archive holds

Nothing of an accepted archive lies outside of its directory, and every file that the checksums name
has its digest. A file that they do not name is not looked at. -/

namespace Qasedak.Backup

open Foundation Payments Store

/-! ## Places -/

/-- Where the parts of a path lead from a place in a directory, the innermost name first; none where
they leave the directory. -/
def resolve : List FileName → List FileName → Option (List FileName)
  | place, [] => some place
  | place, part :: parts =>
      if part = ofText ['.', '.'] then
        match place with
        | [] => none
        | _ :: above => resolve above parts
      else resolve (part :: place) parts

/-- The path leads to a place in the directory that it is taken from. -/
def StaysInside (name : FileName) : Prop :=
  isAbsolute name = false ∧ (resolve [] (pathParts name)).isSome

theorem isSome_resolve {parts : List FileName} (h : ofText ['.', '.'] ∉ parts)
    (place : List FileName) : (resolve place parts).isSome := by
  induction parts generalizing place with
  | nil => rfl
  | cons part parts ih =>
      rw [List.mem_cons, not_or] at h
      unfold resolve
      rw [if_neg (Ne.symm h.1)]
      exact ih h.2 _

theorem staysInside_of_safe {name : FileName} (h : detectPathTraversal name = false) :
    StaysInside name := by
  simp only [detectPathTraversal, Bool.or_eq_false_iff, List.contains_eq_mem,
    decide_eq_false_iff_not] at h
  exact ⟨h.1, isSome_resolve h.2 []⟩

/-! ## Extraction -/

section Extraction

variable {maxSize : ℕ} {members : List Member} {files files' : FileTree}

theorem checkMember_ok {total total' : ℕ} {m : Member}
    (h : checkMember maxSize total m = .ok total') :
    detectPathTraversal m.name = false ∧ m.kind ≠ .symbolicLink ∧ m.kind ≠ .hardLink ∧
      m.kind ≠ .device ∧ isFifoMode m.mode = false ∧
      total' = total + (if m.kind = .regular then m.content.length else 0) ∧
      (m.kind = .regular → total' ≤ maxSize) := by
  unfold checkMember at h
  split_ifs at h with hpath hlink hspecial hregular hsize
  · cases h
    rw [not_or] at hlink hspecial
    exact ⟨Bool.eq_false_iff.mpr hpath, hlink.1, hlink.2, hspecial.1,
      Bool.eq_false_iff.mpr hspecial.2, by simp [hregular], fun _ => Nat.not_lt.mp hsize⟩
  · cases h
    rw [not_or] at hlink hspecial
    exact ⟨Bool.eq_false_iff.mpr hpath, hlink.1, hlink.2, hspecial.1,
      Bool.eq_false_iff.mpr hspecial.2, by simp [hregular], fun h => absurd h hregular⟩

theorem checkMembers_ok {total total' : ℕ}
    (h : members.foldlM (checkMember maxSize) total = .ok total') :
    ∀ m ∈ members, ∃ before after, checkMember maxSize before m = .ok after := by
  induction members generalizing total with
  | nil => exact fun m hm => nomatch hm
  | cons m members ih =>
      rw [List.foldlM_cons] at h
      cases hm : checkMember maxSize total m with
      | error e =>
          rw [hm] at h
          cases h
      | ok next =>
          rw [hm] at h
          intro m' hm'
          rcases List.mem_cons.mp hm' with rfl | hm'
          · exact ⟨total, next, hm⟩
          · exact ih h m' hm'

theorem isFile_makeDirs {dirs : List (List FileName)} (h : ∀ dir ∈ dirs, files.isFile dir = false)
    (path : List FileName) : (files.makeDirs dirs).isFile path = files.isFile path := by
  by_cases hdir : path ∈ dirs
  · rw [h path hdir, FileTree.isFile, FileTree.makeDirs, if_pos hdir]
  · simp only [FileTree.isFile, FileTree.makeDirs, if_neg hdir]

theorem isFile_set {path path' : List FileName} {node : Node} :
    (files.set path node).isFile path' =
      if path' = path then node != .dir else files.isFile path' := by
  by_cases h : path' = path
  · cases node <;> simp [FileTree.isFile, FileTree.set, h]
  · simp only [FileTree.isFile, FileTree.set, if_neg h]

theorem extractMember_ok {m : Member} (h : extractMember files m = .ok files')
    (path : List FileName) :
    files'.isFile path = true ↔
      files.isFile path = true ∨ m.IsFile = true ∧ pathParts m.name = path := by
  simp only [extractMember] at h
  split_ifs at h with hupper hfile hdir hother
  · cases h
    simp only [not_or, List.any_eq_true, not_exists, not_and, Bool.not_eq_true] at hupper
    rw [isFile_set, isFile_makeDirs hupper.2, hfile]
    by_cases hpath : path = pathParts m.name
    · simp [hpath]
    · simp [hpath, Ne.symm hpath]
  · cases h
    simp only [not_or, List.any_eq_true, not_exists, not_and, Bool.not_eq_true] at hupper
    rw [isFile_set, isFile_makeDirs hupper.2]
    by_cases hpath : path = pathParts m.name
    · simp [hpath, hother, hfile]
    · simp [hpath, hfile]

/-- The files after an extraction are those that its members leave. -/
theorem isFile_extracted (h : members.foldlM extractMember files = .ok files')
    (path : List FileName) :
    files'.isFile path = true ↔
      files.isFile path = true ∨ ∃ m ∈ members, m.IsFile = true ∧ pathParts m.name = path := by
  induction members generalizing files with
  | nil =>
      cases h
      simp
  | cons m members ih =>
      rw [List.foldlM_cons] at h
      cases hm : extractMember files m with
      | error e =>
          rw [hm] at h
          cases h
      | ok next =>
          rw [hm] at h
          rw [ih h, extractMember_ok hm, or_assoc]
          simp

theorem safeExtractArchive_ok (h : safeExtractArchive maxSize members = .ok files) :
    (∃ total, members.foldlM (checkMember maxSize) 0 = .ok total) ∧
      members.foldlM extractMember emptyDir = .ok files := by
  unfold safeExtractArchive at h
  cases hcheck : members.foldlM (checkMember maxSize) 0 with
  | error e =>
      rw [hcheck] at h
      cases h
  | ok total =>
      rw [hcheck] at h
      exact ⟨⟨total, rfl⟩, h⟩

end Extraction

/-! ## Verification -/

section Verification

variable {py : Python} {payload : FileTree} {checksums : Checksums}

/-- Every checksum is that of the file that it names. -/
def Matches (py : Python) (payload : FileTree) (checksums : Checksums) : Prop :=
  ∀ e ∈ checksums, detectPathTraversal e.1 = false ∧
    ∃ content, payload (pathParts e.1) = some (.file content) ∧
      py.lower (py.sha256 content) = py.lower e.2

theorem verifyChecksum_ok_iff {e : FileName × List Char} :
    verifyChecksum py payload e = .ok () ↔ detectPathTraversal e.1 = false ∧
      ∃ content, payload (pathParts e.1) = some (.file content) ∧
        py.lower (py.sha256 content) = py.lower e.2 := by
  unfold verifyChecksum
  by_cases hpath : detectPathTraversal e.1 = true
  · simp [hpath]
  · rw [if_neg hpath]
    rw [Bool.not_eq_true] at hpath
    split
    · rename_i content hfile
      simp [hpath, hfile]
    · rename_i hnone
      constructor
      · exact fun h => nomatch h
      · rintro ⟨-, content, hfile, -⟩
        exact absurd hfile (hnone content)

theorem verifyAll_ok_iff :
    checksums.forM (verifyChecksum py payload) = .ok () ↔ Matches py payload checksums := by
  induction checksums with
  | nil => exact ⟨fun _ => nofun, fun _ => rfl⟩
  | cons e checksums ih =>
      rw [Matches, List.forall_mem_cons, ← verifyChecksum_ok_iff]
      change _ ↔ _ ∧ Matches py payload checksums
      rw [← ih]
      change (verifyChecksum py payload e >>= fun _ =>
        checksums.forM (verifyChecksum py payload)) = .ok () ↔ _
      cases verifyChecksum py payload e with
      | error err =>
          constructor
          · intro h
            cases h
          · rintro ⟨h, -⟩
            cases h
      | ok _ =>
          constructor
          · exact fun h => ⟨rfl, h⟩
          · exact fun h => h.2

/-- What a verification has read. -/
structure Verified (py : Python) (payload : FileTree) (checksums : Checksums) : Prop where
  read : ∃ manifest fromFile, readManifest py payload = .ok manifest ∧
    checksumsFromFile payload = .ok fromFile ∧
    fromFile.or (checksumsFromManifest manifest) = some checksums
  nonempty : checksums ≠ []
  isMatch : Matches py payload checksums

theorem verifyChecksums_ok_iff :
    verifyChecksums py payload = .ok checksums ↔ Verified py payload checksums := by
  unfold verifyChecksums
  constructor
  · intro h
    cases hmanifest : readManifest py payload with
    | error e =>
        rw [hmanifest] at h
        cases h
    | ok manifest =>
        cases hfile : checksumsFromFile payload with
        | error e =>
            rw [hmanifest, hfile] at h
            cases h
        | ok fromFile =>
            simp only [hmanifest, hfile, bind, Except.bind] at h
            split at h
            · cases h
            · rename_i found hfound
              split at h
              · cases h
              · rename_i hne
                cases hall : found.forM (verifyChecksum py payload) with
                | error e =>
                    rw [hall] at h
                    cases h
                | ok u =>
                    rw [hall] at h
                    cases h
                    exact ⟨⟨manifest, fromFile, hmanifest, hfile, hfound⟩, hne,
                      verifyAll_ok_iff.mp hall⟩
  · rintro ⟨⟨manifest, fromFile, hmanifest, hfile, hfound⟩, hne, hmatch⟩
    simp only [hmanifest, hfile, hfound, bind, Except.bind, if_neg hne,
      verifyAll_ok_iff.mpr hmatch]
    rfl

end Verification

/-! ## Accepted archives -/

/-- An archive that `validate_backup_archive` extracts and verifies, with the files, the root of the
payload and the checksums. -/
structure Accepts (py : Python) (maxSize : ℕ) (members : List Member) (files : FileTree)
    (root : List FileName) (checksums : Checksums) : Prop where
  extracted : safeExtractArchive maxSize members = .ok files
  payload : PayloadRoot files root
  verified : verifyChecksums py (files.below root) = .ok checksums

/-- No path of a member or of a checksum leads out of its directory. -/
def Contained (members : List Member) (checksums : Checksums) : Prop :=
  (∀ m ∈ members, StaysInside m.name) ∧ ∀ e ∈ checksums, StaysInside e.1

/-- Every file of the payload but the manifest and the list itself is listed with its digest. -/
def Complete (py : Python) (payload : FileTree) (checksums : Checksums) : Prop :=
  ∀ path content, payload path = some (.file content) → path ≠ [manifestName] →
    path ≠ [checksumsName] → ∃ e ∈ checksums, pathParts e.1 = path ∧
      py.lower (py.sha256 content) = py.lower e.2

/-- Every member that leaves a file of the payload is named by a checksum. -/
def NamesMembers (members : List Member) (root : List FileName) (checksums : Checksums) : Prop :=
  ∀ m ∈ members, m.IsFile = true → ∀ path, pathParts m.name = root ++ path →
    path ≠ [manifestName] → path ≠ [checksumsName] → ∃ e ∈ checksums, pathParts e.1 = path

theorem exists_file_of_isFile {files : FileTree} {path : List FileName}
    (h : files.isFile path = true) : ∃ content, files path = some (.file content) := by
  unfold FileTree.isFile at h
  split at h
  · exact ⟨_, ‹_›⟩
  · cases h

theorem Accepts.contained {py : Python} {maxSize : ℕ} {members : List Member} {files : FileTree}
    {root : List FileName} {checksums : Checksums}
    (h : Accepts py maxSize members files root checksums) : Contained members checksums := by
  obtain ⟨⟨total, hcheck⟩, -⟩ := safeExtractArchive_ok h.extracted
  refine ⟨fun m hm => ?_, fun e he => ?_⟩
  · obtain ⟨before, after, hm⟩ := checkMembers_ok hcheck m hm
    exact staysInside_of_safe (checkMember_ok hm).1
  · exact staysInside_of_safe ((verifyChecksums_ok_iff.mp h.verified).isMatch e he).1

/-- An accepted archive is complete exactly where its list names what its members leave. -/
theorem Accepts.complete_iff {py : Python} {maxSize : ℕ} {members : List Member} {files : FileTree}
    {root : List FileName} {checksums : Checksums}
    (h : Accepts py maxSize members files root checksums) :
    Complete py (files.below root) checksums ↔ NamesMembers members root checksums := by
  obtain ⟨-, hextract⟩ := safeExtractArchive_ok h.extracted
  have hfile := isFile_extracted hextract
  constructor
  · intro hcomplete m hm hleaves path hpath hmanifest hlist
    obtain ⟨content, hcontent⟩ := exists_file_of_isFile
      ((hfile (root ++ path)).mpr (Or.inr ⟨m, hm, hleaves, hpath⟩))
    obtain ⟨e, he, hname, -⟩ := hcomplete path content hcontent hmanifest hlist
    exact ⟨e, he, hname⟩
  · intro hnames path content hcontent hmanifest hlist
    have hpresent : files.isFile (root ++ path) = true := by
      change files (root ++ path) = _ at hcontent
      rw [FileTree.isFile, hcontent]
    obtain ⟨m, hm, hleaves, hpath⟩ := ((hfile _).mp hpresent).resolve_left
      (by unfold FileTree.isFile emptyDir; split_ifs <;> simp)
    obtain ⟨e, he, hname⟩ := hnames m hm hleaves path hpath hmanifest hlist
    obtain ⟨-, content', hcontent', hdigest⟩ := (verifyChecksums_ok_iff.mp h.verified).isMatch e he
    rw [hname, hcontent] at hcontent'
    cases hcontent'
    exact ⟨e, he, hname, hdigest⟩

end Qasedak.Backup
