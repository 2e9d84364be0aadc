import Qasedak.Backup.ChecksumList

/-! # A packed directory is unpacked

The archive of a staging directory without links and special files extracts to its files. -/

namespace Qasedak.Backup

open Foundation Payments Store

/-! ## Entries -/

/-- The identity of a file among its names. -/
def StagedEntry.inode? (e : StagedEntry) : Option ℕ :=
  match e.node with
  | .file inode _ => some inode
  | _ => none

/-- The size of the entry in an archive. -/
def StagedEntry.size (e : StagedEntry) : ℕ :=
  match e.node with
  | .file _ content => content.length
  | _ => 0

/-- The entry is a file, a directory or a socket. -/
def StagedEntry.IsPlain (e : StagedEntry) : Prop := e.node ≠ .symlink ∧ e.node ≠ .device

/-- What an extraction makes of the entry. -/
def StagedEntry.node? (e : StagedEntry) : Option Node :=
  match e.node with
  | .file _ content => some (.file content)
  | .dir => some .dir
  | _ => none

/-- The files of some entries. -/
def fileTree (entries : List StagedEntry) : FileTree := fun path =>
  if path = [] then some .dir else (entries.find? (·.path = path)).bind StagedEntry.node?

/-- The member of an entry, where the archive has one. -/
def StagedEntry.member? (e : StagedEntry) : Option Member :=
  e.node?.map fun node =>
    { name := asPosix e.path
      kind := if node = .dir then .directory else .regular
      mode := e.mode % 0o10000
      content := match node with
        | .dir => []
        | .file content => content }

def ValidPath (path : List FileName) : Prop := path ≠ [] ∧ ∀ part ∈ path, ValidPart part

theorem isFifoMode_mod (mode : ℕ) : isFifoMode (mode % 0o10000) = false := by
  have hzero : mode % 0o10000 / 0o10000 = 0 := Nat.div_eq_of_lt (Nat.mod_lt _ (by omega))
  rw [isFifoMode, hzero]
  rfl

section Check

variable {maxSize : ℕ}

/-- The entries pass the checks of an extraction: no file comes twice, and none is a link or a
special file. -/
structure Packs (seen : List ℕ) (entries : List StagedEntry) : Prop where
  plain : ∀ e ∈ entries, e.IsPlain
  inodes_nodup : (entries.filterMap StagedEntry.inode?).Nodup
  inodes_fresh : ∀ inode ∈ entries.filterMap StagedEntry.inode?, inode ∉ seen

theorem checkMember_of_valid {e : StagedEntry} {total : ℕ} {kind : MemberKind} {content : Bytes}
    (h : ValidPath e.path) :
    checkMember maxSize total { name := asPosix e.path, kind, mode := e.mode % 0o10000, content } =
      if kind = .symbolicLink ∨ kind = .hardLink then .error .linkEntry
      else if kind = .device then .error .specialFile
      else if kind = .regular then
        if maxSize < total + content.length then .error .extractedSize
        else .ok (total + content.length)
      else .ok total := by
  rw [checkMember, safe_asPosix h.1 h.2, isFifoMode_mod]
  simp

theorem packs_cons {seen : List ℕ} {e : StagedEntry} {entries : List StagedEntry} :
    Packs seen (e :: entries) ↔ e.IsPlain ∧
      (∀ inode, e.inode? = some inode → inode ∉ seen) ∧
      Packs (e.inode?.toList ++ seen) entries := by
  constructor
  · rintro ⟨hplain, hnodup, hfresh⟩
    refine ⟨hplain e List.mem_cons_self, fun inode h => ?_,
      fun e' he' => hplain e' (List.mem_cons_of_mem e he'), ?_, fun inode hinode => ?_⟩
    · exact hfresh inode (List.mem_filterMap.mpr ⟨e, List.mem_cons_self, h⟩)
    · cases h : e.inode? with
      | none => rwa [List.filterMap_cons_none h] at hnodup
      | some i =>
          rw [List.filterMap_cons_some h] at hnodup
          exact (List.nodup_cons.mp hnodup).2
    · cases h : e.inode? with
      | none =>
          rw [List.filterMap_cons_none h] at hfresh
          simpa using hfresh inode hinode
      | some i =>
          rw [List.filterMap_cons_some h] at hnodup hfresh
          have hne : inode ≠ i := by
            rintro rfl
            exact (List.nodup_cons.mp hnodup).1 hinode
          simpa [hne] using hfresh inode (List.mem_cons_of_mem i hinode)
  · rintro ⟨hplain, hself, hrest⟩
    refine ⟨List.forall_mem_cons.mpr ⟨hplain, hrest.plain⟩, ?_, fun inode hinode => ?_⟩
    · cases h : e.inode? with
      | none =>
          rw [List.filterMap_cons_none h]
          exact hrest.inodes_nodup
      | some i =>
          rw [List.filterMap_cons_some h, List.nodup_cons]
          refine ⟨fun hmem => ?_, hrest.inodes_nodup⟩
          have hfresh := hrest.inodes_fresh i hmem
          simp [h] at hfresh
    · obtain ⟨e', he', hinode'⟩ := List.mem_filterMap.mp hinode
      rcases List.mem_cons.mp he' with rfl | he'
      · exact hself inode hinode'
      · have hfresh := hrest.inodes_fresh inode (List.mem_filterMap.mpr ⟨e', he', hinode'⟩)
        exact fun hseen => hfresh (List.mem_append_right _ hseen)

/-- The checks of the archive of some entries. -/
theorem checkMembers_archive (seen : List ℕ) {entries : List StagedEntry} {total total' : ℕ}
    (hvalid : ∀ e ∈ entries, ValidPath e.path) (htotal : total ≤ maxSize) :
    (archiveMembers seen entries).foldlM (checkMember maxSize) total = .ok total' ↔
      Packs seen entries ∧ total' = total + (entries.map StagedEntry.size).sum ∧
        total' ≤ maxSize := by
  induction entries generalizing seen total with
  | nil =>
      constructor
      · intro h
        cases h
        exact ⟨⟨nofun, List.nodup_nil, nofun⟩, rfl, htotal⟩
      · rintro ⟨-, rfl, -⟩
        rfl
  | cons e entries ih =>
      have hself := hvalid e List.mem_cons_self
      have hrest : ∀ e' ∈ entries, ValidPath e'.path := fun e' he' =>
        hvalid e' (List.mem_cons_of_mem e he')
      rw [packs_cons, List.map_cons, List.sum_cons]
      cases hnode : e.node with
      | symlink =>
          simp only [archiveMembers, hnode, List.foldlM_cons, checkMember_of_valid hself]
          constructor
          · intro h
            cases h
          · rintro ⟨⟨hplain, -⟩, -⟩
            exact absurd hnode hplain.1
      | device =>
          simp only [archiveMembers, hnode, List.foldlM_cons, checkMember_of_valid hself]
          constructor
          · intro h
            cases h
          · rintro ⟨⟨hplain, -⟩, -⟩
            exact absurd hnode hplain.2
      | dir =>
          have hplain : e.IsPlain := by simp [StagedEntry.IsPlain, hnode]
          have hinode : e.inode? = none := by simp [StagedEntry.inode?, hnode]
          have hsize : e.size = 0 := by simp [StagedEntry.size, hnode]
          simp only [archiveMembers, hnode, List.foldlM_cons, checkMember_of_valid hself, hinode,
            hsize]
          change (archiveMembers seen entries).foldlM (checkMember maxSize) total = _ ↔ _
          rw [ih _ hrest htotal]
          simp [hplain]
      | socket =>
          have hplain : e.IsPlain := by simp [StagedEntry.IsPlain, hnode]
          have hinode : e.inode? = none := by simp [StagedEntry.inode?, hnode]
          have hsize : e.size = 0 := by simp [StagedEntry.size, hnode]
          simp only [archiveMembers, hnode, hinode, hsize]
          rw [ih _ hrest htotal]
          simp [hplain]
      | file inode content =>
          have hplain : e.IsPlain := by simp [StagedEntry.IsPlain, hnode]
          have hinode : e.inode? = some inode := by simp [StagedEntry.inode?, hnode]
          have hsize : e.size = content.length := by simp [StagedEntry.size, hnode]
          simp only [archiveMembers, hnode, List.foldlM_cons, checkMember_of_valid hself, hinode,
            hsize]
          by_cases hseen : inode ∈ seen
          · simp only [if_pos hseen]
            constructor
            · intro h
              cases h
            · rintro ⟨⟨-, hfresh, -⟩, -⟩
              exact absurd hseen (hfresh inode rfl)
          · simp only [if_neg hseen]
            by_cases hbig : maxSize < total + content.length
            · constructor
              · intro h
                simp [hbig] at h
                cases h
              · rintro ⟨-, hsum, hle⟩
                omega
            · have hstep : total + content.length ≤ maxSize := Nat.not_lt.mp hbig
              simp only [reduceCtorEq, or_self, if_false, if_true, if_neg hbig]
              change (archiveMembers (inode :: seen) entries).foldlM (checkMember maxSize)
                (total + content.length) = _ ↔ _
              rw [ih _ hrest hstep]
              simp [hplain, hseen, Nat.add_assoc]

end Check

/-! ## Extraction -/

section Extraction

variable {entries : List StagedEntry} {e : StagedEntry}

theorem fileTree_of_mem (hnodup : (entries.map StagedEntry.path).Nodup) (he : e ∈ entries)
    (hne : e.path ≠ []) : fileTree entries e.path = e.node? := by
  have hfind : entries.find? (·.path = e.path) = some e := by
    induction entries with
    | nil => cases he
    | cons first entries ih =>
        rw [List.map_cons, List.nodup_cons] at hnodup
        rcases List.mem_cons.mp he with rfl | he
        · simp
        · have hother : first.path ≠ e.path := fun h =>
            hnodup.1 (h ▸ List.mem_map_of_mem he)
          rw [List.find?_cons_of_neg (by simpa using hother)]
          exact ih hnodup.2 he
  rw [fileTree, if_neg hne, hfind]
  rfl

theorem fileTree_of_notMem {path : List FileName} (hne : path ≠ [])
    (h : path ∉ entries.map StagedEntry.path) : fileTree entries path = none := by
  have hfind : entries.find? (·.path = path) = none := by
    rw [List.find?_eq_none]
    intro e he
    have hother : e.path ≠ path := fun hpath => h (hpath ▸ List.mem_map_of_mem he)
    simpa using hother
  rw [fileTree, if_neg hne, hfind]
  rfl

/-- What is found at a path is an entry of it. -/
theorem fileTree_eq_some {path : List FileName} {node : Node} (hne : path ≠ [])
    (h : fileTree entries path = some node) :
    ∃ e ∈ entries, e.path = path ∧ e.node? = some node := by
  rw [fileTree, if_neg hne, Option.bind_eq_some_iff] at h
  obtain ⟨e, hfind, hnode⟩ := h
  exact ⟨e, List.mem_of_find?_eq_some hfind, by simpa using List.find?_some hfind, hnode⟩

/-- A later entry adds its node at its own path. -/
theorem fileTree_concat (hnew : e.path ∉ entries.map StagedEntry.path) (hne : e.path ≠ [])
    (path : List FileName) :
    fileTree (entries ++ [e]) path = if path = e.path then e.node? else fileTree entries path := by
  by_cases hpath : path = e.path
  · subst hpath
    have hfind : entries.find? (·.path = e.path) = none := by
      rw [List.find?_eq_none]
      intro e' he'
      have hother : e'.path ≠ e.path := fun h => hnew (h ▸ List.mem_map_of_mem he')
      simpa using hother
    rw [if_pos rfl, fileTree, if_neg hne, List.find?_append, hfind]
    simp
  · by_cases hroot : path = []
    · simp [fileTree, hroot, Ne.symm hne]
    · have hlast : [e].find? (·.path = path) = none := by simp [Ne.symm hpath]
      rw [if_neg hpath, fileTree, fileTree, if_neg hroot, if_neg hroot, List.find?_append, hlast,
        Option.or_none]

/-- The member of an entry leaves what the entry is. -/
theorem extractMember_entry {m : Member} (hm : e.member? = some m) (hvalid : ValidPath e.path)
    (hnew : e.path ∉ entries.map StagedEntry.path)
    (hdirs : ∀ dir ∈ upperDirs e.path, fileTree entries dir = some .dir) :
    extractMember (fileTree entries) m = .ok (fileTree (entries ++ [e])) := by
  rw [StagedEntry.member?, Option.map_eq_some_iff] at hm
  obtain ⟨node, hnode, rfl⟩ := hm
  have hparts := pathParts_asPosix hvalid.1 hvalid.2
  have hnul : .char (Char.ofNat 0) ∉ asPosix e.path := by
    intro hmem
    rcases mem_asPosix hmem with h | ⟨part, hpart, hc⟩
    · exact absurd h (by decide)
    · exact (hvalid.2 part hpart).2.2.1 hc
  have hupper : (upperDirs e.path).any (fileTree entries).isFile = false := by
    rw [List.any_eq_false]
    intro dir hdir
    simp [FileTree.isFile, hdirs dir hdir]
  have hmake : (fileTree entries).makeDirs (upperDirs e.path) = fileTree entries := by
    funext path
    unfold FileTree.makeDirs
    split_ifs with h
    · exact (hdirs path h).symm
    · rfl
  have hset : (fileTree entries).set e.path node = fileTree (entries ++ [e]) := by
    funext path
    rw [fileTree_concat hnew hvalid.1, FileTree.set, hnode]
  have hnone := fileTree_of_notMem hvalid.1 hnew
  simp only [extractMember, hparts, hmake, hnul, hupper]
  cases node with
  | dir => simp [Member.IsFile, FileTree.isFile, hnone, hset]
  | file content => simp [Member.IsFile, hnone, hset]

/-- A socket is in no archive. -/
theorem fileTree_concat_none (hnode : e.node? = none) (hvalid : ValidPath e.path)
    (hnew : e.path ∉ entries.map StagedEntry.path) :
    fileTree (entries ++ [e]) = fileTree entries := by
  funext path
  rw [fileTree_concat hnew hvalid.1]
  split_ifs with h
  · rw [h, hnode, fileTree_of_notMem hvalid.1 hnew]
  · rfl

/-- The members of the rest of a directory are extracted to what is there already. -/
theorem extract_rest (before : List StagedEntry) {rest : List StagedEntry}
    (hnodup : ((before ++ rest).map StagedEntry.path).Nodup)
    (hvalid : ∀ e ∈ before ++ rest, ValidPath e.path) (hparents : ParentsFirst before rest) :
    (rest.filterMap StagedEntry.member?).foldlM extractMember (fileTree before) =
      .ok (fileTree (before ++ rest)) := by
  induction rest generalizing before with
  | nil =>
      rw [List.append_nil]
      rfl
  | cons e rest ih =>
      have hassoc : before ++ e :: rest = before ++ [e] ++ rest := by simp
      have hself := hvalid e (by simp)
      have hnew : e.path ∉ before.map StagedEntry.path := by
        rw [List.map_append, List.nodup_append] at hnodup
        exact fun hmem => hnodup.2.2 e.path hmem e.path (by simp) rfl
      have hbefore : (before.map StagedEntry.path).Nodup := by
        rw [List.map_append] at hnodup
        exact hnodup.of_append_left
      have hnext := ih (before ++ [e]) (hassoc ▸ hnodup) (hassoc ▸ hvalid) hparents.2
      cases hm : e.member? with
      | none =>
          have hnode : e.node? = none := by simpa [StagedEntry.member?] using hm
          rw [List.filterMap_cons_none hm, ← fileTree_concat_none hnode hself hnew, hnext, hassoc]
      | some m =>
          have hdirs : ∀ dir ∈ upperDirs e.path, fileTree before dir = some .dir := by
            intro dir hdir
            by_cases hroot : dir = []
            · rw [fileTree, if_pos hroot]
            · obtain ⟨d, hd, rfl, hkind⟩ := hparents.1 dir hdir hroot
              rw [fileTree_of_mem hbefore hd hroot, StagedEntry.node?, hkind]
          rw [List.filterMap_cons_some hm, List.foldlM_cons,
            extractMember_entry hm hself hnew hdirs, hassoc]
          exact hnext

theorem archiveMembers_eq {seen : List ℕ} (h : Packs seen entries) :
    archiveMembers seen entries = entries.filterMap StagedEntry.member? := by
  induction entries generalizing seen with
  | nil => rfl
  | cons e entries ih =>
      obtain ⟨hplain, hfresh, hrest⟩ := packs_cons.mp h
      have hnext := ih hrest
      cases hnode : e.node with
      | symlink => exact absurd hnode hplain.1
      | device => exact absurd hnode hplain.2
      | dir =>
          have hinode : e.inode? = none := by rw [StagedEntry.inode?, hnode]
          rw [hinode] at hnext
          have hm : e.member? =
              some (Member.mk (asPosix e.path) .directory (e.mode % 0o10000) []) := by
            simp [StagedEntry.member?, StagedEntry.node?, hnode]
          simp only [archiveMembers, hnode, List.filterMap_cons_some hm]
          exact congrArg _ hnext
      | socket =>
          have hinode : e.inode? = none := by rw [StagedEntry.inode?, hnode]
          rw [hinode] at hnext
          have hm : e.member? = none := by simp [StagedEntry.member?, StagedEntry.node?, hnode]
          simp only [archiveMembers, hnode, List.filterMap_cons_none hm]
          exact hnext
      | file inode content =>
          have hinode : e.inode? = some inode := by rw [StagedEntry.inode?, hnode]
          rw [hinode] at hnext
          have hm : e.member? =
              some (Member.mk (asPosix e.path) .regular (e.mode % 0o10000) content) := by
            simp [StagedEntry.member?, StagedEntry.node?, hnode]
          simp only [archiveMembers, hnode, if_neg (hfresh inode hinode),
            List.filterMap_cons_some hm]
          exact congrArg _ hnext

/-- What an extraction makes of the archive of a directory. -/
theorem safeExtract_archive {maxSize : ℕ} {files : FileTree}
    (hnodup : (entries.map StagedEntry.path).Nodup) (hvalid : ∀ e ∈ entries, ValidPath e.path)
    (hparents : ParentsFirst [] entries) :
    safeExtractArchive maxSize (archiveMembers [] entries) = .ok files ↔
      Packs [] entries ∧ (entries.map StagedEntry.size).sum ≤ maxSize ∧
        files = fileTree entries := by
  have hextract (h : Packs [] entries) :
      (archiveMembers [] entries).foldlM extractMember emptyDir = .ok (fileTree entries) := by
    rw [archiveMembers_eq h]
    exact extract_rest [] hnodup hvalid hparents
  constructor
  · intro h
    obtain ⟨⟨total, hcheck⟩, hfiles⟩ := safeExtractArchive_ok h
    obtain ⟨hpacks, rfl, hsize⟩ := (checkMembers_archive [] hvalid (Nat.zero_le _)).mp hcheck
    rw [hextract hpacks] at hfiles
    exact ⟨hpacks, by simpa using hsize, (Except.ok.inj hfiles).symm⟩
  · rintro ⟨hpacks, hsize, rfl⟩
    rw [safeExtractArchive, (checkMembers_archive [] hvalid (Nat.zero_le _)).mpr
      ⟨hpacks, rfl, by simpa using hsize⟩]
    exact hextract hpacks

/-- The archive of a staging directory is extracted to the same files, exactly where these are no
links and fit the limit. -/
theorem extracted_as_packed (tree : StagingTree) (maxSize : ℕ) (files : FileTree) :
    safeExtractArchive maxSize (archiveMembers [] tree.entries) = .ok files ↔
      Packs [] tree.entries ∧ (tree.entries.map StagedEntry.size).sum ≤ maxSize ∧
        files = fileTree tree.entries :=
  safeExtract_archive tree.paths_nodup tree.paths_valid tree.parents_first

end Extraction

/-! ## The list in its place -/

section Placement

variable {content : Bytes} {entries entries' : List StagedEntry}

/-- Nothing but a file stands where the list goes. -/
def ListIsFile (entries : List StagedEntry) : Prop :=
  ∀ e ∈ entries, e.path = [checksumsName] → ∃ inode old, e.node = .file inode old

/-- The entries with the list in its place, instead of an old list or as a new file. -/
structure Placement (content : Bytes) (entries entries' : List StagedEntry) where
  before : List StagedEntry
  after : List StagedEntry
  old : Option StagedEntry
  list : StagedEntry
  inode : ℕ
  entries_eq : entries = before ++ (old.toList ++ after)
  entries'_eq : entries' = before ++ list :: after
  list_path : list.path = [checksumsName]
  list_node : list.node = .file inode content
  old_path : ∀ o ∈ old, o.path = [checksumsName]
  old_node : ∀ o ∈ old, ∃ c, o.node = .file inode c
  others : ∀ e ∈ before ++ after, e.path ≠ [checksumsName]
  fresh : inode ∉ (before ++ after).filterMap StagedEntry.inode?

theorem lt_freshInode {inode : ℕ} (h : inode ∈ entries.filterMap StagedEntry.inode?) :
    inode < freshInode entries := by
  induction entries with
  | nil => cases h
  | cons e entries ih =>
      cases hnode : e.node with
      | file i c =>
          have hinode : e.inode? = some i := by rw [StagedEntry.inode?, hnode]
          rw [List.filterMap_cons_some hinode] at h
          have hcons : freshInode (e :: entries) = max (i + 1) (freshInode entries) := by
            simp only [freshInode, List.foldr_cons, hnode]
          rw [hcons]
          rcases List.mem_cons.mp h with rfl | h
          · omega
          · have := ih h
            omega
      | dir | symlink | device | socket =>
          have hinode : e.inode? = none := by rw [StagedEntry.inode?, hnode]
          rw [List.filterMap_cons_none hinode] at h
          have hcons : freshInode (e :: entries) = freshInode entries := by
            simp only [freshInode, List.foldr_cons, hnode]
          rw [hcons]
          exact ih h

theorem overwrite_of_ne {inode : ℕ} {e : StagedEntry} (h : e.inode? ≠ some inode) :
    overwrite inode content e = e := by
  cases hnode : e.node with
  | file i c =>
      have hne : i ≠ inode := by
        rintro rfl
        exact h (by rw [StagedEntry.inode?, hnode])
      simp only [overwrite, hnode, if_neg hne]
  | dir | symlink | device | socket => simp only [overwrite, hnode]

@[simp] theorem overwrite_path (inode : ℕ) (e : StagedEntry) :
    (overwrite inode content e).path = e.path := by
  unfold overwrite
  split
  · split_ifs <;> rfl
  · rfl

theorem overwrite_inode? (inode : ℕ) (e : StagedEntry) :
    (overwrite inode content e).inode? = e.inode? := by
  unfold overwrite
  split
  · rename_i i c hnode
    split_ifs
    · rw [StagedEntry.inode?, StagedEntry.inode?, hnode]
    · rfl
  · rfl

theorem overwrite_isPlain {inode : ℕ} {e : StagedEntry}
    (h : (overwrite inode content e).IsPlain) : e.IsPlain := by
  cases hnode : e.node with
  | file i c => simp [StagedEntry.IsPlain, hnode]
  | dir | symlink | device | socket =>
      have hsame : overwrite inode content e = e := by simp only [overwrite, hnode]
      rwa [hsame] at h

theorem parentsFirst_append {before first rest : List StagedEntry} :
    ParentsFirst before (first ++ rest) ↔
      ParentsFirst before first ∧ ParentsFirst (before ++ first) rest := by
  induction first generalizing before with
  | nil => simp [ParentsFirst]
  | cons e first ih =>
      rw [List.cons_append, ParentsFirst, ParentsFirst, ih, and_assoc, List.append_assoc]
      rfl

theorem ParentsFirst.mono {before before' rest : List StagedEntry}
    (hdirs : ∀ d ∈ before, d.node = .dir → d ∈ before') (h : ParentsFirst before rest) :
    ParentsFirst before' rest := by
  induction rest generalizing before before' with
  | nil => trivial
  | cons e rest ih =>
      refine ⟨fun dir hdir hroot => ?_, ih (fun d hd hkind => ?_) h.2⟩
      · obtain ⟨d, hd, hpath, hkind⟩ := h.1 dir hdir hroot
        exact ⟨d, hdirs d hd hkind, hpath, hkind⟩
      · rcases List.mem_append.mp hd with hd | hd
        · exact List.mem_append_left _ (hdirs d hd hkind)
        · exact List.mem_append_right _ hd

/-- Of the files, all but the list are listed. -/
theorem size_sum (hothers : ∀ e ∈ entries, e.path ≠ [checksumsName]) :
    (entries.map StagedEntry.size).sum =
      ((listedFiles entries).map fun f => f.2.length).sum := by
  induction entries with
  | nil => rfl
  | cons e entries ih =>
      have hrest := ih fun e' he' => hothers e' (List.mem_cons_of_mem e he')
      have hne := hothers e List.mem_cons_self
      rw [listedFiles] at hrest ⊢
      cases hnode : e.node with
      | file i c => simp [StagedEntry.size, hnode, hne, hrest]
      | dir | symlink | device | socket => simp [StagedEntry.size, hnode, hrest]

/-- The list is written where a file or nothing is. -/
theorem exists_placement (content : Bytes) (hpaths : (entries.map StagedEntry.path).Nodup)
    (hinodes : (entries.filterMap StagedEntry.inode?).Nodup) (hfile : ListIsFile entries) :
    ∃ entries', putChecksums content entries = .ok entries' ∧
      Nonempty (Placement content entries entries') := by
  unfold putChecksums
  cases hfind : entries.find? (·.path = [checksumsName]) with
  | none =>
      have hothers : ∀ e ∈ entries, e.path ≠ [checksumsName] := by
        simpa using List.find?_eq_none.mp hfind
      have hwhole := List.takeWhile_append_dropWhile (p := beforeChecksums) (l := entries)
      refine ⟨_, rfl, ⟨⟨_, _, none, _, _, ?_, rfl, rfl, rfl, nofun, nofun, ?_, ?_⟩⟩⟩
      · exact hwhole.symm
      · rwa [hwhole]
      · rw [hwhole]
        exact fun h => Nat.lt_irrefl _ (lt_freshInode h)
  | some e =>
      obtain ⟨before, after, hentries, hbefore⟩ := List.find?_eq_some_iff_append.mp hfind |>.2
      have hpath : e.path = [checksumsName] := by simpa using List.find?_some hfind
      have hmem := List.mem_of_find?_eq_some hfind
      obtain ⟨inode, old, hnode⟩ := hfile e hmem hpath
      have hinode : e.inode? = some inode := by rw [StagedEntry.inode?, hnode]
      rw [hentries, List.map_append, List.map_cons, List.nodup_middle, List.nodup_cons,
        ← List.map_append, hpath] at hpaths
      rw [hentries, List.filterMap_append, List.filterMap_cons_some hinode, List.nodup_middle,
        List.nodup_cons, ← List.filterMap_append] at hinodes
      have hkeep : ∀ e' ∈ before ++ after, overwrite inode content e' = e' := fun e' he' =>
        overwrite_of_ne fun h => hinodes.1 (List.mem_filterMap.mpr ⟨e', he', h⟩)
      have hover : overwrite inode content e = { e with node := .file inode content } := by
        simp only [overwrite, hnode, if_true]
      have hmap : entries.map (overwrite inode content) =
          before ++ { e with node := .file inode content } :: after := by
        rw [hentries, List.map_append, List.map_cons, hover]
        have hfix (es : List StagedEntry) (h : ∀ e' ∈ es, e' ∈ before ++ after) :
            es.map (overwrite inode content) = es :=
          (List.map_congr_left fun e' he' => hkeep e' (h e' he')).trans (List.map_id es)
        rw [hfix before fun e' => List.mem_append_left after,
          hfix after fun e' => List.mem_append_right before]
      simp only [hnode]
      refine ⟨_, rfl, ⟨⟨before, after, some e, _, inode, ?_, hmap, hpath, rfl, ?_, ?_, ?_,
        hinodes.1⟩⟩⟩
      · exact hentries
      · simpa using hpath
      · simpa using ⟨old, hnode⟩
      · exact fun e' he' h => hpaths.1 (h ▸ List.mem_map_of_mem he')

/-- An archive that passes the checks is of a directory that passes them, with a file or nothing
where the list went. -/
theorem packs_of_putChecksums (hpaths : (entries.map StagedEntry.path).Nodup)
    (hput : putChecksums content entries = .ok entries') (h : Packs [] entries') :
    Packs [] entries ∧ ListIsFile entries := by
  unfold putChecksums at hput
  cases hfind : entries.find? (·.path = [checksumsName]) with
  | none =>
      rw [hfind] at hput
      cases hput
      have hothers : ∀ e ∈ entries, e.path ≠ [checksumsName] := by
        simpa using List.find?_eq_none.mp hfind
      have hsub : entries.Sublist (entries.takeWhile beforeChecksums ++
          { path := [checksumsName], node := .file (freshInode entries) content } ::
            entries.dropWhile beforeChecksums) := by
        conv_lhs => rw [← List.takeWhile_append_dropWhile (p := beforeChecksums) (l := entries)]
        exact (List.sublist_cons_self _ _).append_left _
      exact ⟨⟨fun e he => h.plain e (hsub.subset he),
        (hsub.filterMap _).nodup h.inodes_nodup, fun _ _ => List.not_mem_nil⟩,
        fun e he hpath => absurd hpath (hothers e he)⟩
  | some e =>
      have hmem := List.mem_of_find?_eq_some hfind
      have hpath : e.path = [checksumsName] := by simpa using List.find?_some hfind
      cases hnode : e.node with
      | file inode old =>
          simp only [hfind, hnode] at hput
          cases hput
          have hinodes : (entries.map (overwrite inode content)).filterMap StagedEntry.inode? =
              entries.filterMap StagedEntry.inode? := by
            rw [List.filterMap_map]
            exact List.filterMap_congr fun e _ => overwrite_inode? inode e
          refine ⟨⟨fun e' he' => ?_, hinodes ▸ h.inodes_nodup, fun _ _ => List.not_mem_nil⟩,
            fun e' he' hpath' => ?_⟩
          · exact overwrite_isPlain (h.plain _ (List.mem_map_of_mem he'))
          · have hsame : e' = e :=
              List.inj_on_of_nodup_map hpaths he' hmem (hpath'.trans hpath.symm)
            exact ⟨inode, old, hsame ▸ hnode⟩
      | symlink =>
          simp only [hfind, hnode] at hput
          cases hput
          exact absurd hnode (h.plain e hmem).1
      | device =>
          simp only [hfind, hnode] at hput
          cases hput
          exact absurd hnode (h.plain e hmem).2
      | dir | socket =>
          simp only [hfind, hnode] at hput
          cases hput

namespace Placement

variable (P : Placement content entries entries')

include P

theorem fileTree_eq :
    fileTree entries' = (fileTree entries).set [checksumsName] (.file content) := by
  obtain ⟨before, after, old, list, inode, rfl, rfl, hlist, hnode, hold, -, hothers, -⟩ := P
  have hbefore : before.find? (·.path = [checksumsName]) = none := by
    rw [List.find?_eq_none]
    intro e he
    simpa using hothers e (List.mem_append_left _ he)
  funext path
  by_cases hroot : path = []
  · subst hroot
    rfl
  · rw [FileTree.set, fileTree, fileTree, if_neg hroot, if_neg hroot, List.find?_append,
      List.find?_append, List.find?_append]
    by_cases hpath : path = [checksumsName]
    · subst hpath
      have hfound : (list :: after).find? (·.path = [checksumsName]) = some list :=
        List.find?_cons_of_pos (by simpa using hlist)
      rw [if_pos rfl, hbefore, hfound]
      simp [StagedEntry.node?, hnode]
    · have hskip : (list :: after).find? (·.path = path) = after.find? (·.path = path) :=
        List.find?_cons_of_neg (by simpa [hlist] using Ne.symm hpath)
      have hnone : old.toList.find? (·.path = path) = none := by
        rw [List.find?_eq_none]
        intro o ho
        simpa [hold o (by simpa using ho)] using Ne.symm hpath
      rw [if_neg hpath, hskip, hnone, Option.none_or]

theorem paths_nodup (h : (entries.map StagedEntry.path).Nodup) :
    (entries'.map StagedEntry.path).Nodup := by
  obtain ⟨before, after, old, list, inode, rfl, rfl, hlist, -, -, -, hothers, -⟩ := P
  have hrest : ((before ++ after).map StagedEntry.path).Nodup :=
    (((List.sublist_append_right _ _).append_left _).map _).nodup h
  rw [List.map_append, List.map_cons, List.nodup_middle, List.nodup_cons, ← List.map_append]
  refine ⟨fun hmem => ?_, hrest⟩
  obtain ⟨e, he, hpath⟩ := List.mem_map.mp hmem
  exact hothers e he (hpath.trans hlist)

theorem validPath (h : ∀ e ∈ entries, ValidPath e.path) : ∀ e ∈ entries', ValidPath e.path := by
  obtain ⟨before, after, old, list, inode, rfl, rfl, hlist, -⟩ := P
  intro e he
  rcases List.mem_append.mp he with he | he
  · exact h e (List.mem_append_left _ he)
  · rcases List.mem_cons.mp he with rfl | he
    · rw [hlist]
      exact ⟨List.cons_ne_nil _ _, by decide⟩
    · exact h e (List.mem_append_right _ (List.mem_append_right _ he))

theorem packs (h : Packs [] entries) : Packs [] entries' := by
  obtain ⟨before, after, old, list, inode, rfl, rfl, -, hnode, -, -, -, hfresh⟩ := P
  have hsub : (before ++ after).Sublist (before ++ (old.toList ++ after)) :=
    (List.sublist_append_right _ _).append_left _
  have hinode : list.inode? = some inode := by rw [StagedEntry.inode?, hnode]
  refine ⟨fun e he => ?_, ?_, fun _ _ => List.not_mem_nil⟩
  · rcases List.mem_append.mp he with he | he
    · exact h.plain e (List.mem_append_left _ he)
    · rcases List.mem_cons.mp he with rfl | he
      · simp [StagedEntry.IsPlain, hnode]
      · exact h.plain e (List.mem_append_right _ (List.mem_append_right _ he))
  · rw [List.filterMap_append, List.filterMap_cons_some hinode, List.nodup_middle,
      List.nodup_cons, ← List.filterMap_append]
    exact ⟨hfresh, (hsub.filterMap _).nodup h.inodes_nodup⟩

theorem parentsFirst (h : ParentsFirst [] entries) : ParentsFirst [] entries' := by
  obtain ⟨before, after, old, list, inode, rfl, rfl, hlist, -, -, hfile, -⟩ := P
  obtain ⟨hbefore, hrest⟩ := parentsFirst_append.mp h
  obtain ⟨-, hafter⟩ := parentsFirst_append.mp hrest
  refine parentsFirst_append.mpr ⟨hbefore, fun dir hdir hroot => ?_, hafter.mono ?_⟩
  · have htop : upperDirs [checksumsName] = [[]] := by decide
    rw [hlist, htop] at hdir
    exact absurd (List.mem_singleton.mp hdir) hroot
  · intro d hd hkind
    rcases List.mem_append.mp hd with hd | hd
    · exact List.mem_append_left _ hd
    · obtain ⟨c, hnode⟩ := hfile d (by simpa using hd)
      rw [hnode] at hkind
      cases hkind

theorem size_eq : (entries'.map StagedEntry.size).sum =
    ((listedFiles entries).map fun f => f.2.length).sum + content.length := by
  obtain ⟨before, after, old, list, inode, rfl, rfl, -, hnode, hold, -, hothers, -⟩ := P
  have hlisted : listedFiles (before ++ (old.toList ++ after)) =
      listedFiles before ++ listedFiles after := by
    have hnone : listedFiles old.toList = [] := by
      rw [listedFiles, List.filterMap_eq_nil_iff]
      intro o ho
      have hpath := hold o (by simpa using ho)
      split
      · rw [if_pos hpath]
      · rfl
    simp only [listedFiles, List.filterMap_append] at hnone ⊢
    rw [hnone, List.nil_append]
  have hsize : list.size = content.length := by rw [StagedEntry.size, hnode]
  rw [hlisted, List.map_append, List.sum_append, List.map_cons, List.sum_cons, List.map_append,
    List.sum_append, size_sum fun e he => hothers e (List.mem_append_left _ he),
    size_sum fun e he => hothers e (List.mem_append_right _ he), hsize]
  omega

end Placement

end Placement

end Qasedak.Backup
