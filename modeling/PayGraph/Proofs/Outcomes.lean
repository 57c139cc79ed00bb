/-!
# Outcomes

What succeeds after a change of its value or of its fault has succeeded before; a list of successes
is a success with a list.  A computation on a state goes on from what the one before it leaves.
-/

namespace PayGraph
namespace Except

variable {Fault Cause Found Value : Type}

theorem exists_of_map_eq_ok {outcome : Except Fault Found} {make : Found → Value} {value : Value}
    (mapped : outcome.map make = .ok value) :
    ∃ found, outcome = .ok found ∧ make found = value := by
  cases outcome with
  | error fault => cases mapped
  | ok found => exact ⟨found, rfl, Except.ok.inj mapped⟩

theorem eq_error_of_map_eq_error {outcome : Except Fault Found} {make : Found → Value}
    {fault : Fault} (mapped : outcome.map make = .error fault) : outcome = .error fault := by
  cases outcome with
  | error found => exact congrArg Except.error (Except.error.inj mapped)
  | ok found => cases mapped

theorem eq_ok_of_mapError_eq_ok {outcome : Except Fault Value} {make : Fault → Cause}
    {value : Value} (mapped : outcome.mapError make = .ok value) : outcome = .ok value := by
  cases outcome with
  | error fault => cases mapped
  | ok found => exact congrArg Except.ok (Except.ok.inj mapped)

theorem exists_of_mapError_eq_error {outcome : Except Fault Value} {make : Fault → Cause}
    {cause : Cause} (mapped : outcome.mapError make = .error cause) :
    ∃ fault, outcome = .error fault ∧ make fault = cause := by
  cases outcome with
  | error fault => exact ⟨fault, rfl, Except.error.inj mapped⟩
  | ok found => cases mapped

theorem bind_eq_ok_iff {outcome : Except Fault Found} {next : Found → Except Fault Value}
    {value : Value} :
    outcome >>= next = .ok value ↔ ∃ found, outcome = .ok found ∧ next found = .ok value := by
  cases outcome <;> simp [bind, Except.bind]

theorem bind_eq_error_iff {outcome : Except Fault Found} {next : Found → Except Fault Value}
    {fault : Fault} :
    outcome >>= next = .error fault ↔
      outcome = .error fault ∨ ∃ found, outcome = .ok found ∧ next found = .error fault := by
  cases outcome <;> simp [bind, Except.bind]

theorem eq_ok_of_toOption {outcome : Except Fault Value} {value : Value}
    (found : outcome.toOption = some value) : outcome = .ok value := by
  cases outcome with
  | error fault => cases found
  | ok other => exact congrArg Except.ok (Option.some.inj found)

theorem exists_mapM_eq_ok {attempt : Found → Except Fault Value} {listed : List Found}
    (each : ∀ one ∈ listed, ∃ value, attempt one = .ok value) :
    ∃ values, listed.mapM attempt = .ok values := by
  induction listed with
  | nil => exact ⟨[], rfl⟩
  | cons first rest induction =>
      obtain ⟨⟨value, first_eq⟩, rest_each⟩ := List.forall_mem_cons.mp each
      obtain ⟨values, rest_eq⟩ := induction rest_each
      exact ⟨value :: values, by rw [List.mapM_cons, first_eq, rest_eq]; rfl⟩

end Except

section

variable {State Found Value : Type}

theorem pure_apply (value : Value) (state : State) :
    (pure value : StateM State Value) state = (value, state) :=
  rfl

theorem bind_apply (first : StateM State Found) (next : Found → StateM State Value)
    (state : State) : (first >>= next) state = next (first state).1 (first state).2 :=
  rfl

end

end PayGraph
