/-!
Runs of a system whose atomic steps are a partial function of a label.

`Run step? start history now` says that the labels of `history` lead from `start` to `now`, in this
order and each of them enabled. The history keeps with each label the state in which it was taken,
the latest first; so what has happened on the way, and in what order, can be read off it. Every
order of steps that is enabled at all is a run. What one step preserves, a run preserves
(`Run.keeps`).
-/

namespace RemoteCall

/-- Some steps lead from `start` to `now`; the history has them with the states before them, the
latest first. -/
inductive Run {S L : Type} (step? : S → L → Option S) (start : S) : List (S × L) → S → Prop where
  | refl : Run step? start [] start
  | step {history : List (S × L)} {before after : S} {label : L}
      (run : Run step? start history before) (taken : step? before label = some after) :
      Run step? start ((before, label) :: history) after

/-- Some step of the history has the label. -/
def Happened {S L : Type} (history : List (S × L)) (label : L) : Prop :=
  ∃ s, (s, label) ∈ history

theorem happened_cons {S L : Type} {history : List (S × L)} {s : S} {last label : L} :
    Happened ((s, last) :: history) label ↔ label = last ∨ Happened history label := by
  constructor
  · rintro ⟨t, mem⟩
    rcases List.mem_cons.mp mem with same | mem
    · cases same
      exact Or.inl rfl
    · exact Or.inr ⟨t, mem⟩
  · rintro (rfl | ⟨t, mem⟩)
    · exact ⟨s, List.mem_cons_self⟩
    · exact ⟨t, List.mem_cons_of_mem _ mem⟩

namespace Run

variable {S L : Type} {step? : S → L → Option S} {start now : S} {history : List (S × L)}

/-- A property that every step preserves holds after a run if it holds before. -/
theorem keeps {P : S → Prop} (run : Run step? start history now)
    (preserved : ∀ {s t label}, step? s label = some t → P s → P t) (holds : P start) : P now := by
  induction run with
  | refl => exact holds
  | step _ taken ih => exact preserved taken ih

/-- What did not hold at the beginning but holds now has begun to hold with one of the steps. -/
theorem became {P : S → Prop} (run : Run step? start history now) (absent : ¬ P start)
    (holds : P now) :
    ∃ s label t earlier later, history = later ++ (s, label) :: earlier ∧
      Run step? start earlier s ∧ step? s label = some t ∧ Run step? t later now ∧ ¬ P s ∧ P t := by
  induction run with
  | refl => exact absurd holds absent
  | @step earlier before after last run taken ih =>
    by_cases there : P before
    · obtain ⟨s, label, t, first, later, rfl, reached, began, rest, new⟩ := ih there
      exact ⟨s, label, t, first, (before, last) :: later, rfl, reached, began, rest.step taken, new⟩
    · exact ⟨before, last, after, earlier, [], rfl, run, taken, .refl, there, holds⟩

/-- A run can be cut at each of its steps. -/
theorem cut (run : Run step? start history now) {s : S} {label : L} (mem : (s, label) ∈ history) :
    ∃ t earlier later, history = later ++ (s, label) :: earlier ∧ Run step? start earlier s ∧
      step? s label = some t ∧ Run step? t later now := by
  induction run with
  | refl => cases mem
  | @step earlier before after last run taken ih =>
    rcases List.mem_cons.mp mem with same | mem
    · cases same
      exact ⟨after, earlier, [], rfl, run, taken, .refl⟩
    · obtain ⟨t, first, later, rfl, reached, began, rest⟩ := ih mem
      exact ⟨t, first, (before, last) :: later, rfl, reached, began, rest.step taken⟩

/-- What every step preserves once it holds still holds now if it held at a step of the run. -/
theorem kept_since {P : S → Prop} (run : Run step? start history now)
    (preserved : ∀ {s t label}, step? s label = some t → P s → P t) {s : S} {label : L}
    (mem : (s, label) ∈ history) (holds : P s) : P now := by
  obtain ⟨t, _, _, _, _, taken, rest⟩ := run.cut mem
  exact rest.keeps preserved (preserved taken holds)

/-- A run of a system is one of every system that has its steps. -/
theorem mono {step?' : S → L → Option S} (run : Run step? start history now)
    (also : ∀ {s t label}, step? s label = some t → step?' s label = some t) :
    Run step?' start history now := by
  induction run with
  | refl => exact .refl
  | step _ taken ih => exact ih.step (also taken)

/-- A list of labels that can be taken one after the other is a run, with these labels. -/
theorem labels_of_foldlM {labels : List L} (taken : labels.foldlM step? start = some now) :
    ∃ history, Run step? start history now ∧ history.map (·.2) = labels.reverse := by
  suffices ∀ {s : S} {earlier : List (S × L)}, Run step? start earlier s →
      labels.foldlM step? s = some now → ∃ history, Run step? start history now ∧
        history.map (·.2) = labels.reverse ++ earlier.map (·.2) by
    obtain ⟨history, run, same⟩ := this .refl taken
    exact ⟨history, run, by simpa using same⟩
  clear taken
  induction labels with
  | nil =>
      intro s earlier run done
      cases done
      exact ⟨earlier, run, rfl⟩
  | cons label rest ih =>
      intro s earlier run taken
      obtain ⟨t, first, remaining⟩ := Option.bind_eq_some_iff.mp taken
      obtain ⟨history, run, same⟩ := ih (run.step first) remaining
      exact ⟨history, run, by simp [same]⟩

theorem of_foldlM {labels : List L} (taken : labels.foldlM step? start = some now) :
    ∃ history, Run step? start history now := by
  obtain ⟨history, run, _⟩ := labels_of_foldlM taken
  exact ⟨history, run⟩

end Run

end RemoteCall
