import VirtualAdapter.Error

/-!
# Errors there and back

A system error goes through its cause and a cause through its system error.
The kind always survives, and with it the cause that goes by the kind; codes
and texts survive where the system error is carried along.
-/

namespace VirtualAdapter

/-- The errors of this kind have a cause of their own. -/
def IoKind.HasCause (kind : IoKind) : Prop :=
  kind = .wouldBlock ∨ kind = .timedOut ∨ kind = .interrupted ∨
    kind = .notFound

instance (kind : IoKind) : Decidable kind.HasCause :=
  inferInstanceAs (Decidable (_ ∨ _))

namespace Error

/-- The system error of this cause has a kind by which it is known again. -/
inductive HasKind : Error → Prop
  | wouldBlock : HasKind .wouldBlock
  | timedOut : HasKind .timedOut
  | interrupted : HasKind .interrupted
  | notFound (name : String) : HasKind (.notFound name)

/-- A system error whose kind has a cause, and of which the cause tells all. -/
inductive IsPlain : IoError → Prop
  | wouldBlock : IsPlain (.bare .wouldBlock)
  | timedOut : IsPlain (.bare .timedOut)
  | interrupted : IsPlain (.custom .interrupted Error.interrupted.message)

/-- Four kinds have causes, and all other errors are carried along. -/
theorem ofIo_cases (system : IoError) :
    (system.kind = .wouldBlock ∧ ofIo system = .wouldBlock) ∨
    (system.kind = .timedOut ∧ ofIo system = .timedOut) ∨
    (system.kind = .interrupted ∧ ofIo system = .interrupted) ∨
    (system.kind = .notFound ∧ ofIo system = .notFound system.text) ∨
    ¬ system.kind.HasCause ∧ ofIo system = .io system := by
  unfold ofIo
  split
  case h_1 kind => exact .inl ⟨kind, rfl⟩
  case h_2 kind => exact .inr (.inl ⟨kind, rfl⟩)
  case h_3 kind => exact .inr (.inr (.inl ⟨kind, rfl⟩))
  case h_4 kind => exact .inr (.inr (.inr (.inl ⟨kind, rfl⟩)))
  case h_5 unblocked timely uninterrupted there =>
    refine .inr (.inr (.inr (.inr ⟨?_, rfl⟩)))
    rintro (same | same | same | same)
    · exact unblocked same
    · exact timely same
    · exact uninterrupted same
    · exact there same

theorem ofIo_of_not_hasCause
    {system : IoError}
    (plain : ¬ system.kind.HasCause) : ofIo system = .io system := by
  rcases ofIo_cases system with
    ⟨kind, _⟩ | ⟨kind, _⟩ | ⟨kind, _⟩ | ⟨kind, _⟩ | ⟨_, cause⟩
  · exact absurd (.inl kind) plain
  · exact absurd (.inr (.inl kind)) plain
  · exact absurd (.inr (.inr (.inl kind))) plain
  · exact absurd (.inr (.inr (.inr kind))) plain
  · exact cause

/-- A system error is carried along exactly if its kind has no cause. -/
theorem name_ofIo_eq_io_iff (system : IoError) :
    (ofIo system).name = "Io" ↔ ¬ system.kind.HasCause := by
  refine ⟨fun same => ?_, fun plain => by rw [ofIo_of_not_hasCause plain, name]⟩
  rcases ofIo_cases system with
    ⟨_, cause⟩ | ⟨_, cause⟩ | ⟨_, cause⟩ | ⟨_, cause⟩ | ⟨plain, _⟩
  · rw [cause] at same
    exact absurd same (show "WouldBlock" ≠ "Io" by decide)
  · rw [cause] at same
    exact absurd same (show "TimedOut" ≠ "Io" by decide)
  · rw [cause] at same
    exact absurd same (show "Interrupted" ≠ "Io" by decide)
  · rw [cause] at same
    exact absurd same (show "NotFound" ≠ "Io" by decide)
  · exact plain

/-- The cause of a system error goes by its kind alone. -/
theorem name_ofIo_of_kind_eq
    {left right : IoError}
    (same : left.kind = right.kind) : (ofIo left).name = (ofIo right).name := by
  unfold ofIo
  rw [same]
  split <;> rfl

/-- The cause of a system error stands for an error of the same kind. -/
theorem kind_toIo_ofIo (system : IoError) :
    (ofIo system).toIo.kind = system.kind := by
  rcases ofIo_cases system with
    ⟨kind, cause⟩ | ⟨kind, cause⟩ | ⟨kind, cause⟩ | ⟨kind, cause⟩ | ⟨_, cause⟩ <;>
    rw [cause]
  · exact kind.symm
  · exact kind.symm
  · exact kind.symm
  · exact kind.symm
  · rfl

/-- A system error comes back as it was if it is carried along or has nothing
that its cause does not tell. -/
theorem toIo_ofIo_eq_iff (system : IoError) :
    (ofIo system).toIo = system ↔
      ¬ system.kind.HasCause ∨ IsPlain system := by
  constructor
  · intro back
    rcases ofIo_cases system with
      ⟨_, cause⟩ | ⟨_, cause⟩ | ⟨_, cause⟩ | ⟨_, cause⟩ | ⟨carried, _⟩
    · rw [cause] at back
      exact .inr (back ▸ .wouldBlock)
    · rw [cause] at back
      exact .inr (back ▸ .timedOut)
    · rw [cause] at back
      exact .inr (back ▸ .interrupted)
    · -- The text of a missing adapter is longer than the text that it repeats.
      rw [cause] at back
      have longer : ("adapter not found: " ++ system.text).length =
          system.text.length := congrArg (·.text.length) back
      have more : 0 < "adapter not found: ".length := by decide +kernel
      rw [String.length_append] at longer
      generalize "adapter not found: ".length = added at longer more
      omega
    · exact .inl carried
  · rintro (carried | plain)
    · rw [ofIo_of_not_hasCause carried]
      rfl
    · cases plain <;> rfl

/-- A cause comes back as the same one if it has a kind, or carries an error
that is carried along again. -/
theorem name_ofIo_toIo_eq_iff (error : Error) :
    (ofIo error.toIo).name = error.name ↔
      HasKind error ∨
        ∃ carried, error = .io carried ∧ ¬ carried.kind.HasCause := by
  constructor
  · intro same
    cases error with
    | wouldBlock => exact .inl .wouldBlock
    | timedOut => exact .inl .timedOut
    | interrupted => exact .inl .interrupted
    | notFound name => exact .inl (.notFound name)
    | io carried => exact .inr ⟨carried, rfl, (name_ofIo_eq_io_iff carried).mp same⟩
    | driver message => exact absurd same (show "Io" ≠ "Driver" by decide)
    | resourceExhausted what =>
        exact absurd same (show "Io" ≠ "ResourceExhausted" by decide)
    | sessionEnded => exact absurd same (show "Io" ≠ "SessionEnded" by decide)
    | invalidArgument message =>
        exact absurd same (show "Io" ≠ "InvalidArgument" by decide)
    | contractViolation message =>
        exact absurd same (show "Io" ≠ "ContractViolation" by decide)
  · rintro (kind | ⟨carried, rfl, plain⟩)
    · cases kind <;> rfl
    · exact (name_ofIo_eq_io_iff carried).mpr plain

/-- A system error keeps its kind through its cause and back, and is the same
again unless its kind has a cause; its cause is the same the second time.  The
system error of a cause keeps its kind through another cause, which is the same
one if the cause has a kind. -/
theorem conversions_keep_kind :
    (∀ system : IoError,
      (ofIo system).toIo.kind = system.kind ∧
      (¬ system.kind.HasCause → (ofIo system).toIo = system) ∧
      ((ofIo system).toIo = system →
        ¬ system.kind.HasCause ∨ IsPlain system) ∧
      (ofIo (ofIo system).toIo).name = (ofIo system).name) ∧
    ∀ error : Error,
      (ofIo error.toIo).toIo.kind = error.toIo.kind ∧
      (HasKind error → (ofIo error.toIo).name = error.name) ∧
      ((ofIo error.toIo).name = error.name →
        HasKind error ∨
          ∃ carried, error = .io carried ∧ ¬ carried.kind.HasCause) := by
  refine ⟨fun system => ⟨kind_toIo_ofIo system, ?_, ?_, ?_⟩, fun error =>
    ⟨kind_toIo_ofIo error.toIo, ?_, ?_⟩⟩
  · exact fun carried => (toIo_ofIo_eq_iff system).mpr (.inl carried)
  · exact (toIo_ofIo_eq_iff system).mp
  · exact name_ofIo_of_kind_eq (kind_toIo_ofIo system)
  · exact fun kind => (name_ofIo_toIo_eq_iff error).mpr (.inl kind)
  · exact (name_ofIo_toIo_eq_iff error).mp

/-- A code of the system keeps its kind, a text that is carried along comes
back, and a missing adapter is still one under another name. -/
theorem conversions_keep_kind_of_three :
    (ofIo (.os ⟨110⟩)).toIo.kind = .timedOut ∧
      (ofIo (.custom .brokenPipe "gone")).toIo = .custom .brokenPipe "gone" ∧
      (ofIo (toIo (.notFound "wg0"))).name = "NotFound" ∧
      ofIo (toIo (.notFound "wg0")) ≠ .notFound "wg0" := by
  obtain ⟨systems, causes⟩ := conversions_keep_kind
  refine ⟨(systems (.os ⟨110⟩)).1, ?_, ?_, by decide +kernel⟩
  · exact (systems (.custom .brokenPipe "gone")).2.1 (by decide)
  · exact (causes (.notFound "wg0")).2.1 (.notFound "wg0")

end Error
end VirtualAdapter
