import Mathlib.Logic.Function.Basic
import Mathlib.Data.List.Basic
import Mathlib.Data.List.Nodup
import Mathlib.Data.Set.Card
import Mathlib.Tactic.Ring

/-!
# Words in linked pages

A sequence of words is stored in pages of a fixed number of slots.  The last slot
of a page holds a word if that is the last word, and the address of the next page
if more than one word is left.  Addresses are words themselves.
-/

namespace MxDriver

namespace LinkedPages

variable {α : Type*}

/-- What each slot of each page holds. -/
abbrev Memory (α : Type*) := α → Nat → Option α

/-- Read a number of words from a slot of a page on. -/
def read (slots : Nat) (memory : Memory α) : Nat → α → Nat → Option (List α)
  | 0, _, _ => some []
  | count + 1, page, slot =>
    if slot = slots - 1 ∧ count ≠ 0 then
      (memory page slot).bind fun next =>
        (memory next 0).bind fun word =>
          (read slots memory count next 1).map (word :: ·)
    else
      (memory page slot).bind fun word =>
        (read slots memory count page (slot + 1)).map (word :: ·)

/-- A page that is not full starts with the first word. -/
theorem head_of_read {slots count slot : Nat} {memory : Memory α} {page word : α}
    {words : List α} (room : slot ≠ slots - 1)
    (readBack : read slots memory count page slot = some (word :: words)) :
    memory page slot = some word := by
  cases count with
  | zero => cases readBack
  | succ count =>
    unfold read at readBack
    rw [if_neg fun full => room full.1, Option.bind_eq_some_iff] at readBack
    obtain ⟨first, slotEq, rest⟩ := readBack
    obtain ⟨others, -, same⟩ := Option.map_eq_some_iff.mp rest
    obtain ⟨rfl, -⟩ := List.cons.inj same
    exact slotEq

variable [DecidableEq α]

def Memory.write (memory : Memory α) (page : α) (slot : Nat) (word : α) : Memory α :=
  Function.update memory page (Function.update (memory page) slot (some word))

/-- Store words from a slot of a page on, in that page and in the given pages after
it; there may be too few of them. -/
def store (slots : Nat) : List α → α → List α → Nat → Memory α → Option (Memory α)
  | [], _, _, _, memory => some memory
  | word :: words, page, pages, slot, memory =>
    if slot = slots - 1 ∧ words ≠ [] then
      match pages with
      | [] => none
      | next :: pages =>
        store slots words next pages 1 ((memory.write page slot next).write next 0 word)
    else store slots words page pages (slot + 1) (memory.write page slot word)

omit [DecidableEq α] in
theorem full_iff {slots slot : Nat} {words : List α} :
    (slot = slots - 1 ∧ words.length ≠ 0) ↔ (slot = slots - 1 ∧ words ≠ []) := by
  simp

@[simp]
theorem Memory.write_self (memory : Memory α) (page : α) (slot : Nat) (word : α) :
    memory.write page slot word page slot = some word := by
  simp [write]

theorem Memory.write_of_ne {memory : Memory α} {page other : α} {slot otherSlot : Nat}
    {word : α} (different : other ≠ page ∨ otherSlot ≠ slot) :
    memory.write page slot word other otherSlot = memory other otherSlot := by
  by_cases same : other = page
  · subst other
    have different : otherSlot ≠ slot := different.resolve_left (fun ne => ne rfl)
    simp [write, different]
  · simp [write, same]

/-- Storing leaves earlier slots and other pages alone. -/
theorem store_frame {slots : Nat} {words pages : List α} {page : α} {slot : Nat}
    {memory next : Memory α} (stored : store slots words page pages slot memory = some next)
    (distinct : (page :: pages).Nodup) {other : α} {otherSlot : Nat}
    (outside : other ∉ pages) (earlier : other = page → otherSlot < slot) :
    next other otherSlot = memory other otherSlot := by
  induction words generalizing page pages slot memory with
  | nil =>
    obtain rfl := Option.some.inj stored
    rfl
  | cons word words ih =>
    have here : other ≠ page ∨ otherSlot ≠ slot := by
      by_cases same : other = page
      · exact .inr (Nat.ne_of_lt (earlier same))
      · exact .inl same
    unfold store at stored
    split at stored
    · cases pages with
      | nil => cases stored
      | cons link pages =>
        simp only [List.mem_cons, not_or] at outside
        rw [ih stored distinct.of_cons outside.2 (fun same => (outside.1 same).elim),
          Memory.write_of_ne (.inl outside.1), Memory.write_of_ne here]
    · rw [ih stored distinct outside fun same => Nat.lt_succ_of_lt (earlier same),
        Memory.write_of_ne here]

theorem read_of_store {slots : Nat} {words pages : List α} {page : α}
    {slot : Nat} {memory next : Memory α}
    (stored : store slots words page pages slot memory = some next)
    (distinct : (page :: pages).Nodup) : read slots next words.length page slot = some words := by
  induction words generalizing page pages slot memory with
  | nil => rfl
  | cons word words ih =>
    unfold store at stored
    rw [List.length_cons, read]
    split at stored
    · rename_i full
      rw [if_pos (full_iff.mpr full)]
      cases pages with
      | nil => cases stored
      | cons link pages =>
        obtain ⟨pageNew, linkNew⟩ : page ∉ link :: pages ∧ link ∉ pages :=
          ⟨(List.nodup_cons.mp distinct).1, (List.nodup_cons.mp distinct.of_cons).1⟩
        have distinctPages : page ≠ link ∧ page ∉ pages := by simpa using pageNew
        have linked : next page slot = some link := by
          rw [store_frame stored distinct.of_cons distinctPages.2
            fun same => (distinctPages.1 same).elim,
            Memory.write_of_ne (.inl distinctPages.1), Memory.write_self]
        have first : next link 0 = some word := by
          rw [store_frame stored distinct.of_cons linkNew fun _ => Nat.one_pos,
            Memory.write_self]
        simp [linked, first, ih stored distinct.of_cons]
    · rename_i room
      rw [if_neg (room ∘ full_iff.mp)]
      have kept : next page slot = some word := by
        rw [store_frame stored distinct (List.nodup_cons.mp distinct).1
          fun _ => Nat.lt_succ_self slot, Memory.write_self]
      simp [kept, ih stored distinct]

/-! ## How many pages it takes -/

/-- The number of links on the way. -/
def linkCount (slots : Nat) : Nat → Nat → Nat
  | 0, _ => 0
  | count + 1, slot =>
    if slot = slots - 1 ∧ count ≠ 0 then 1 + linkCount slots count 1
    else linkCount slots count (slot + 1)

/-- The words are stored if there is a page for every link. -/
theorem exists_store {slots : Nat} {words pages : List α} (page : α) {slot : Nat}
    (memory : Memory α) (enough : linkCount slots words.length slot ≤ pages.length) :
    ∃ next, store slots words page pages slot memory = some next := by
  induction words generalizing page pages slot memory with
  | nil => exact ⟨memory, rfl⟩
  | cons word words ih =>
    rw [List.length_cons, linkCount] at enough
    unfold store
    split
    · rename_i full
      rw [if_pos (full_iff.mpr full)] at enough
      cases pages with
      | nil => simp at enough
      | cons link pages =>
        rw [List.length_cons] at enough
        exact ih link _ (by omega)
    · rename_i room
      rw [if_neg (room ∘ full_iff.mp)] at enough
      exact ih page _ enough

theorem linkCount_of_le {slots count slot : Nat} (fits : count + slot ≤ slots) :
    linkCount slots count slot = 0 := by
  induction count generalizing slot with
  | zero => rfl
  | succ count ih =>
    rw [linkCount, if_neg (by omega), ih (by omega)]

/-- A page that is full moves its last word to the next page. -/
theorem linkCount_of_gt {slots count slot : Nat} (atLeast : 2 ≤ slots) (inside : slot < slots)
    (beyond : slots < count + slot) :
    linkCount slots count slot = 1 + linkCount slots (count + slot - (slots - 1)) 0 := by
  induction count generalizing slot with
  | zero => omega
  | succ count ih =>
    rw [linkCount]
    split
    · rename_i full
      have left : count + 1 + slot - (slots - 1) = count + 1 := by omega
      rw [left, linkCount, if_neg (by omega)]
    · rename_i room
      have left : count + 1 + slot = count + (slot + 1) := by omega
      rw [ih (by omega) (by omega), left]

/-! ## Which places are written -/

/-- The slots that hold something. -/
def Memory.written (memory : Memory α) : Set (α × Nat) :=
  {place | memory place.1 place.2 ≠ none}

theorem Memory.written_write (memory : Memory α) (page : α) (slot : Nat) (word : α) :
    (memory.write page slot word).written = insert (page, slot) memory.written := by
  ext ⟨other, otherSlot⟩
  by_cases same : (other, otherSlot) = (page, slot)
  · obtain ⟨rfl, rfl⟩ := Prod.mk.inj same
    simp [written]
  · have different : other ≠ page ∨ otherSlot ≠ slot := by
      by_contra both
      simp_all
    simp [written, write_of_ne different, same]

/-- Nothing is written where the next words go. -/
def Fresh (memory : Memory α) (page : α) (pages : List α) (slot : Nat) : Prop :=
  ∀ place ∈ memory.written, place.1 ∉ pages ∧ (place.1 = page → place.2 < slot)

theorem Fresh.write {memory : Memory α} {page word : α} {pages : List α} {slot : Nat}
    (fresh : Fresh memory page pages slot) (distinct : (page :: pages).Nodup) :
    Fresh (memory.write page slot word) page pages (slot + 1) := by
  intro place among
  rw [Memory.written_write] at among
  rcases among with rfl | before
  · exact ⟨(List.nodup_cons.mp distinct).1, fun _ => Nat.lt_succ_self slot⟩
  · obtain ⟨outside, earlier⟩ := fresh place before
    exact ⟨outside, fun same => Nat.lt_succ_of_lt (earlier same)⟩

theorem Fresh.link {memory : Memory α} {page link : α} {pages : List α} {slot : Nat}
    (fresh : Fresh memory page (link :: pages) slot) (distinct : (page :: link :: pages).Nodup) :
    Fresh (memory.write page slot link) link pages 0 := by
  intro place among
  rw [Memory.written_write] at among
  have pageNew := (List.nodup_cons.mp distinct).1
  simp only [List.mem_cons, not_or] at pageNew
  rcases among with rfl | before
  · exact ⟨pageNew.2, fun same => (pageNew.1 same).elim⟩
  · have outside := (fresh place before).1
    simp only [List.mem_cons, not_or] at outside
    exact ⟨outside.2, fun same => (outside.1 same).elim⟩

/-- One place is written for every word and for every link. -/
theorem store_written {slots : Nat} {words pages : List α} {page : α} {slot : Nat}
    {memory next : Memory α} (stored : store slots words page pages slot memory = some next)
    (distinct : (page :: pages).Nodup) (fresh : Fresh memory page pages slot) :
    next.written.encard =
      memory.written.encard + (words.length + linkCount slots words.length slot : Nat) := by
  induction words generalizing page pages slot memory with
  | nil =>
    obtain rfl := Option.some.inj stored
    simp [linkCount]
  | cons word words ih =>
    have vacant : (page, slot) ∉ memory.written := fun among =>
      Nat.lt_irrefl _ ((fresh _ among).2 rfl)
    unfold store at stored
    rw [List.length_cons, linkCount]
    split at stored
    · rename_i full
      rw [if_pos (full_iff.mpr full)]
      cases pages with
      | nil => cases stored
      | cons link pages =>
        have linked := fresh.link distinct
        have linkVacant : (link, 0) ∉ (memory.write page slot link).written := fun among =>
          Nat.not_lt_zero _ ((linked _ among).2 rfl)
        rw [ih stored distinct.of_cons (linked.write distinct.of_cons),
          Memory.written_write, Set.encard_insert_of_notMem linkVacant,
          Memory.written_write, Set.encard_insert_of_notMem vacant]
        push_cast
        ring
    · rename_i room
      rw [if_neg (room ∘ full_iff.mp), ih stored distinct (fresh.write distinct),
        Memory.written_write, Set.encard_insert_of_notMem vacant]
      push_cast
      ring

/-- Only slots of the given pages are written. -/
theorem store_within {slots : Nat} {words pages : List α} {page : α} {slot : Nat}
    {memory next : Memory α} (stored : store slots words page pages slot memory = some next)
    (atLeast : 2 ≤ slots) (inside : slot < slots) {place : α × Nat} (among : place ∈ next.written) :
    place ∈ memory.written ∨ place.1 ∈ page :: pages ∧ place.2 < slots := by
  induction words generalizing page pages slot memory with
  | nil =>
    obtain rfl := Option.some.inj stored
    exact .inl among
  | cons word words ih =>
    unfold store at stored
    split at stored
    · cases pages with
      | nil => cases stored
      | cons link pages =>
        obtain before | ⟨here, below⟩ := ih stored (by omega)
        · rw [Memory.written_write, Memory.written_write] at before
          rcases before with rfl | rfl | before
          · exact .inr ⟨by simp, by omega⟩
          · exact .inr ⟨by simp, inside⟩
          · exact .inl before
        · exact .inr ⟨List.mem_cons_of_mem _ here, below⟩
    · rename_i room
      have before : place ∈ (memory.write page slot word).written →
          place ∈ memory.written ∨ place.1 ∈ page :: pages ∧ place.2 < slots := by
        rw [Memory.written_write]
        rintro (rfl | before)
        · exact .inr ⟨List.mem_cons_self, inside⟩
        · exact .inl before
      by_cases last : words = []
      · subst last
        obtain rfl := Option.some.inj stored
        exact before among
      · have notFull : slot ≠ slots - 1 := fun full => room ⟨full, last⟩
        obtain earlier | here := ih stored (by omega)
        · exact before earlier
        · exact .inr here

/-- No page is left over if there is one for every link. -/
theorem store_uses {slots : Nat} {words pages : List α} {page : α} {slot : Nat}
    {memory next : Memory α} (stored : store slots words page pages slot memory = some next)
    (distinct : (page :: pages).Nodup)
    (tight : pages.length = linkCount slots words.length slot) {other : α}
    (given : other ∈ pages) : (other, 0) ∈ next.written := by
  induction words generalizing page pages slot memory with
  | nil =>
    obtain rfl := List.eq_nil_of_length_eq_zero tight
    cases given
  | cons word words ih =>
    rw [List.length_cons, linkCount] at tight
    unfold store at stored
    split at stored
    · rename_i full
      rw [if_pos (full_iff.mpr full)] at tight
      cases pages with
      | nil => cases stored
      | cons link pages =>
        rw [List.length_cons] at tight
        rcases List.mem_cons.mp given with rfl | given
        · have kept := store_frame stored distinct.of_cons
            (List.nodup_cons.mp distinct.of_cons).1 fun _ => Nat.one_pos
          rw [Memory.write_self] at kept
          simp [Memory.written, kept]
        · exact ih stored distinct.of_cons (by omega) given
    · rename_i room
      rw [if_neg (room ∘ full_iff.mp)] at tight
      exact ih stored distinct tight given

end LinkedPages

end MxDriver
