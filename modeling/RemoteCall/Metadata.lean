/-!
Metadata: the tags attached to a method or to a parameter.

A `Metadata` is a set of texts. Its members are kept strictly increasing, so equal sets are equal
values and the list of tags is the order in which they are shown.
-/

namespace RemoteCall

/-- Puts a tag into a strictly increasing list, unless it is there already. -/
def insertTag (tag : String) : List String → List String
  | [] => [tag]
  | t :: ts =>
    if tag < t then tag :: t :: ts
    else if tag = t then t :: ts
    else t :: insertTag tag ts

/-- The members after an insertion are the new tag and the old members. -/
theorem mem_insertTag {tag x : String} {ts : List String} :
    x ∈ insertTag tag ts ↔ x = tag ∨ x ∈ ts := by
  induction ts with
  | nil => simp [insertTag]
  | cons t ts ih =>
    simp only [insertTag]
    split
    · simp
    · split
      · rename_i h
        subst h
        simp
      · simp only [List.mem_cons, ih]
        grind

/-- Insertion keeps the list strictly increasing. -/
theorem pairwise_insertTag {tag : String} {ts : List String} (h : ts.Pairwise (· < ·)) :
    (insertTag tag ts).Pairwise (· < ·) := by
  induction ts with
  | nil => simp [insertTag]
  | cons t ts ih =>
    simp only [insertTag]
    have ht : ∀ x ∈ ts, t < x := fun _ => List.rel_of_pairwise_cons h
    split
    · rename_i less
      refine List.pairwise_cons.mpr ⟨fun x hx => ?_, h⟩
      rcases List.mem_cons.mp hx with rfl | hx
      · exact less
      · exact String.lt_trans less (ht x hx)
    · split
      · exact h
      · rename_i notLess differ
        refine List.pairwise_cons.mpr ⟨fun x hx => ?_, ih h.tail⟩
        rcases mem_insertTag.mp hx with rfl | hx
        · exact Std.lt_of_le_of_ne (String.not_lt.mp notLess) (Ne.symm differ)
        · exact ht x hx

/-- A set of tags. -/
structure Metadata where
  /-- The members, strictly increasing. -/
  tags : List String
  sorted : tags.Pairwise (· < ·)
deriving DecidableEq

namespace Metadata

/-- No tags. -/
def empty : Metadata := ⟨[], .nil⟩

instance : Inhabited Metadata := ⟨empty⟩

/-- The set with one more member. -/
def insert (m : Metadata) (tag : String) : Metadata :=
  ⟨insertTag tag m.tags, pairwise_insertTag m.sorted⟩

/-- The set with several more members. -/
def insertAll (m : Metadata) (tags : List String) : Metadata := tags.foldl insert m

/-- The set of the given tags. -/
def ofList (tags : List String) : Metadata := empty.insertAll tags

/-- Whether a tag is a member. -/
def contains (m : Metadata) (tag : String) : Bool := m.tags.contains tag

/-- Whether there is no member. -/
def isEmpty (m : Metadata) : Bool := m.tags.isEmpty

/-- The tag that keeps the callbacks of a method off the callback executor. -/
def skipCallbackExecutor : String := "skip-callback-executor"

@[simp] theorem contains_insert (m : Metadata) (tag x : String) :
    (m.insert tag).contains x = (x == tag || m.contains x) := by
  rw [Bool.eq_iff_iff]
  simp [contains, insert, mem_insertTag]

end Metadata

end RemoteCall
