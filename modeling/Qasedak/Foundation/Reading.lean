import Mathlib

/-! Reading from a connection in a loop. How much a read finds is not the reader's choice; what was
read and what will still come are together the same before and after. -/

namespace Foundation

variable {α : Type*}

/-! ## The first separator -/

section Partition

variable [DecidableEq α] {sep xs ys before after : List α}

/-- `partition`: what stands before the first separator, and what stands after it. -/
def partition? (sep : List α) : List α → Option (List α × List α)
  | [] => if sep = [] then some ([], []) else none
  | x :: xs =>
      if sep <+: x :: xs then some ([], (x :: xs).drop sep.length)
      else (partition? sep xs).map fun p => (x :: p.1, p.2)

theorem eq_of_partition? (h : partition? sep xs = some (before, after)) :
    xs = before ++ sep ++ after := by
  induction xs generalizing before with
  | nil =>
      rw [partition?] at h
      split at h
      · next hsep =>
          obtain ⟨rfl, rfl⟩ := Prod.mk.inj (Option.some.inj h)
          simp [hsep]
      · cases h
  | cons x xs ih =>
      rw [partition?] at h
      split at h
      · next hsep =>
          obtain ⟨rfl, rfl⟩ := Prod.mk.inj (Option.some.inj h)
          obtain ⟨rest, hrest⟩ := hsep
          rw [← hrest, List.drop_left, List.nil_append]
      · obtain ⟨⟨before', after'⟩, hrest, heq⟩ := Option.map_eq_some_iff.mp h
        obtain ⟨rfl, rfl⟩ := Prod.mk.inj heq
        rw [ih hrest]
        rfl

/-- What comes later does not move the first separator. -/
theorem partition?_append (h : partition? sep xs = some (before, after)) (ys : List α) :
    partition? sep (xs ++ ys) = some (before, after ++ ys) := by
  induction xs generalizing before with
  | nil =>
      rw [partition?] at h
      split at h
      · next hsep =>
          obtain ⟨rfl, rfl⟩ := Prod.mk.inj (Option.some.inj h)
          cases ys <;> simp [partition?, hsep]
      · cases h
  | cons x xs ih =>
      rw [partition?] at h
      rw [List.cons_append, partition?]
      split at h
      · next hsep =>
          obtain ⟨rfl, rfl⟩ := Prod.mk.inj (Option.some.inj h)
          rw [← List.cons_append, if_pos (hsep.trans (List.prefix_append _ ys)),
            List.drop_append_of_le_length hsep.length_le]
      · next hsep =>
          obtain ⟨⟨before', after'⟩, hrest, heq⟩ := Option.map_eq_some_iff.mp h
          obtain ⟨rfl, rfl⟩ := Prod.mk.inj heq
          have hlong : sep.length ≤ (x :: xs).length := by
            rw [eq_of_partition? hrest]
            simp only [List.length_cons, List.length_append]
            omega
          rw [if_neg, ih hrest]
          · rfl
          · intro hsep'
            exact hsep (List.prefix_of_prefix_length_le hsep'
              (List.prefix_append (x :: xs) ys) hlong)

theorem partition?_ne_none (h : sep <:+: xs) : partition? sep xs ≠ none := by
  induction xs with
  | nil => simp [partition?, List.infix_nil.mp h]
  | cons x xs ih =>
      rw [partition?]
      split
      · simp
      · next hsep =>
          have hrest := (List.infix_cons_iff.mp h).resolve_left hsep
          simpa using ih hrest

/-- Who stops at a separator, or else at the end, has found the first. -/
theorem partition?_of_append (hwhole : partition? sep (xs ++ ys) = some (before, after))
    (hend : (partition? sep xs).isNone = true → ys = []) :
    ∃ tail, partition? sep xs = some (before, tail) ∧ tail ++ ys = after := by
  cases hpart : partition? sep xs with
  | none =>
      rw [hend (by rw [hpart]; rfl), List.append_nil, hpart] at hwhole
      cases hwhole
  | some parts =>
      have hlonger := partition?_append hpart ys
      rw [hwhole] at hlonger
      obtain ⟨rfl, hafter⟩ := Prod.mk.inj (Option.some.inj hlonger)
      exact ⟨parts.2, rfl, hafter.symm⟩

end Partition

/-! ## Reads -/

/-- What a connection still gives before it is closed; a read finds one item more than the next
number says, or everything. -/
structure Connection (α : Type*) where
  incoming : List α
  arrivals : List ℕ

/-- `recv`: as much as has arrived, `n` items at most; nothing once the connection is closed. -/
def Connection.recv (n : ℕ) (conn : Connection α) : List α × Connection α :=
  let found := match conn.arrivals with
    | [] => n
    | arrived :: _ => min n (arrived + 1)
  (conn.incoming.take found, ⟨conn.incoming.drop found, conn.arrivals.tail⟩)

variable {more tooLarge : List α → Bool} {ask : List α → ℕ} {data data' : List α}
  {conn conn' : Connection α} {n : ℕ}

theorem recv_append (n : ℕ) (conn : Connection α) :
    (conn.recv n).1 ++ (conn.recv n).2.incoming = conn.incoming :=
  List.take_append_drop _ _

theorem length_recv_le (n : ℕ) (conn : Connection α) : (conn.recv n).1.length ≤ n := by
  unfold Connection.recv
  cases conn.arrivals with
  | nil => simp
  | cons arrived arrivals => simp only [List.length_take]; omega

/-- A read that finds nothing has found the end. -/
theorem incoming_of_recv_nil (hn : 0 < n) (h : (conn.recv n).1 = []) :
    (conn.recv n).2.incoming = [] := by
  unfold Connection.recv at *
  rcases List.take_eq_nil_iff.mp h with hzero | hnil
  · cases harrivals : conn.arrivals with
    | nil => simp only [harrivals] at hzero; omega
    | cons arrived arrivals => simp only [harrivals] at hzero; omega
  · simp [hnil]

/-- Reads while `more` is asked for. A read that finds nothing ends the loop; one after which there
is too much fails. -/
def readWhile (more tooLarge : List α → Bool) (ask : List α → ℕ) (data : List α)
    (conn : Connection α) : Option (List α × Connection α) :=
  if more data then
    if (conn.recv (ask data)).1 = [] then some (data, (conn.recv (ask data)).2)
    else if tooLarge (data ++ (conn.recv (ask data)).1) then none
    else readWhile more tooLarge ask (data ++ (conn.recv (ask data)).1) (conn.recv (ask data)).2
  else some (data, conn)
termination_by conn.incoming.length
decreasing_by
  have hrecv := congrArg List.length (recv_append (ask data) conn)
  have hpos := List.length_pos_of_ne_nil ‹_›
  rw [List.length_append] at hrecv
  omega

theorem readWhile_some (hask : ∀ data, more data = true → 0 < ask data)
    (h : readWhile more tooLarge ask data conn = some (data', conn')) :
    data' ++ conn'.incoming = data ++ conn.incoming ∧
      (more data' = true → conn'.incoming = []) ∧ (data' = data ∨ tooLarge data' = false) := by
  fun_induction readWhile more tooLarge ask data conn with
  | case1 data conn hmore hnil =>
      obtain ⟨rfl, rfl⟩ := Prod.mk.inj (Option.some.inj h)
      have happend := recv_append (ask data) conn
      rw [hnil, List.nil_append] at happend
      refine ⟨by rw [happend], fun _ => ?_, .inl rfl⟩
      exact incoming_of_recv_nil (hask data hmore) hnil
  | case2 => cases h
  | case3 data conn hmore hnil hsmall ih =>
      obtain ⟨happend, hclosed, hsize⟩ := ih h
      rw [List.append_assoc, recv_append] at happend
      refine ⟨happend, hclosed, .inr ?_⟩
      rcases hsize with rfl | hsize
      · simpa using hsmall
      · exact hsize
  | case4 data conn hmore =>
      obtain ⟨rfl, rfl⟩ := Prod.mk.inj (Option.some.inj h)
      exact ⟨rfl, fun hmore' => absurd hmore' hmore, .inl rfl⟩

/-- What was there when the loop failed. -/
theorem readWhile_none (h : readWhile more tooLarge ask data conn = none) :
    ∃ before chunk rest, more before = true ∧ tooLarge (before ++ chunk) = true ∧
      chunk.length ≤ ask before ∧ before ++ chunk ++ rest = data ++ conn.incoming := by
  fun_induction readWhile more tooLarge ask data conn with
  | case1 => cases h
  | case2 data conn hmore hnil hlarge =>
      refine ⟨data, _, (conn.recv (ask data)).2.incoming, hmore, hlarge, length_recv_le _ _, ?_⟩
      rw [List.append_assoc, recv_append]
  | case3 data conn hmore hnil hsmall ih =>
      obtain ⟨before, chunk, rest, hbefore, hlarge, hle, happend⟩ := ih h
      refine ⟨before, chunk, rest, hbefore, hlarge, hle, ?_⟩
      rw [happend, List.append_assoc, recv_append]
  | case4 => cases h

/-- Reads while `more` is asked for and the connection is open. -/
def fill (more : List α → Bool) (ask : List α → ℕ) (data : List α) (conn : Connection α) :
    List α × Connection α :=
  (readWhile more (fun _ => false) ask data conn).getD (data, conn)

theorem fill_spec (more : List α → Bool) (ask : List α → ℕ)
    (hask : ∀ data, more data = true → 0 < ask data) (data : List α) (conn : Connection α) :
    (fill more ask data conn).1 ++ (fill more ask data conn).2.incoming = data ++ conn.incoming ∧
      (more (fill more ask data conn).1 = true → (fill more ask data conn).2.incoming = []) := by
  unfold fill
  cases h : readWhile more (fun _ => false) ask data conn with
  | none =>
      obtain ⟨before, chunk, rest, -, hlarge, -⟩ := readWhile_none h
      cases hlarge
  | some r =>
      obtain ⟨happend, hclosed, -⟩ := readWhile_some hask h
      exact ⟨happend, hclosed⟩

end Foundation
