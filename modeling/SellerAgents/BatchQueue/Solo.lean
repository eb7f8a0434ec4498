import SellerAgents.BatchQueue.System

open SellerAgents.Js SellerAgents.Execution Concurrent

namespace SellerAgents.BatchQueue

/-- The commands of a run with their answers, in order. -/
abbrev Trace : Type := List (Prog.Call Cmd Cmd.Answer)

/-- A run of one worker while no other worker writes the record. -/
abbrev Solo (call : Call) {α : Type} (program : Program α) (s : Option Owner) (trace : Trace)
    (outcome : Except JsError α) (s' : Option Owner) : Prop :=
  Prog.Runs (Effect call) program s trace outcome s'

variable {call : Call} {α β : Type} {s s' : Option Owner} {trace : Trace} {outcome : Except JsError β}

theorem Solo.getOwner_bind {f : Option Owner → Program β}
    (h : Solo call (getOwner.bind f) s trace outcome s') :
    (∃ error, outcome = .error error ∧ s' = s ∧ trace = [⟨.getOwner, .error error⟩]) ∨
      ∃ rest, trace = ⟨.getOwner, .ok s⟩ :: rest ∧ Solo call (f s) s rest outcome s' := by
  obtain ⟨answer, s₁, rest, heffect, hrun, rfl⟩ := Prog.runs_act_iff.mp h
  obtain ⟨hanswer, rfl⟩ := heffect
  rcases hanswer with rfl | ⟨error, rfl⟩
  · exact .inr ⟨rest, rfl, hrun⟩
  · obtain ⟨rfl, rfl, rfl⟩ := Prog.runs_throw_iff.mp hrun
    exact .inl ⟨error, rfl, rfl, rfl⟩

theorem Solo.port_bind {query : Port} {f : query.Answer → Program β}
    (h : Solo call ((port query).bind f) s trace outcome s') :
    (∃ error, outcome = .error error ∧ s' = s ∧ trace = [⟨.port query, .error error⟩]) ∨
      ∃ value rest, trace = ⟨.port query, .ok value⟩ :: rest ∧
        Solo call (f value) s rest outcome s' := by
  obtain ⟨answer, s₁, rest, heffect, hrun, rfl⟩ := Prog.runs_act_iff.mp h
  have hs : s₁ = s := heffect
  subst hs
  cases answer with
  | ok value => exact .inr ⟨value, rest, rfl, hrun⟩
  | error error =>
    obtain ⟨rfl, rfl, rfl⟩ := Prog.runs_throw_iff.mp hrun
    exact .inl ⟨error, rfl, rfl, rfl⟩

theorem Solo.mutateOwner_bind {callback : Callback} {f : Option Owner × Bool → Program β}
    (h : Solo call ((mutateOwner callback).bind f) s trace outcome s') :
    (∃ error, outcome = .error error ∧ s' = s ∧ trace = [⟨.mutateOwner callback, .error error⟩]) ∨
      ∃ answer s₁ rest, trace = ⟨.mutateOwner callback, .ok answer⟩ :: rest ∧
        Effect call (.mutateOwner callback) s (.ok answer) s₁ ∧
        Solo call (f answer) s₁ rest outcome s' := by
  obtain ⟨answer, s₁, rest, heffect, hrun, rfl⟩ := Prog.runs_act_iff.mp h
  cases answer with
  | ok answer => exact .inr ⟨answer, s₁, rest, rfl, heffect, hrun⟩
  | error error =>
    obtain ⟨rfl, rfl, rfl⟩ := Prog.runs_throw_iff.mp hrun
    rcases effect_mutateOwner heffect with ⟨now, owner, _, hanswer, _⟩ | ⟨_, rfl⟩
    · cases hanswer
    · exact .inl ⟨error, rfl, rfl, rfl⟩

/-- A callback that answered with a store ran at some time, on the record there was. -/
theorem effect_stored {callback : Callback} {record : Option Owner}
    (h : Effect call (.mutateOwner callback) s (.ok (record, true)) s') :
    ∃ now owner, callback.run call now s = .store owner ∧ record = some owner ∧ s' = some owner := by
  rcases effect_mutateOwner h with ⟨now, owner, hrun, hanswer, hnext⟩ | ⟨hanswer, _⟩
  · cases hanswer
    exact ⟨now, owner, hrun, rfl, hnext⟩
  · rcases hanswer with hanswer | ⟨error, hanswer⟩ <;> cases hanswer

/-- The owner, its batch and the entry the loop looks at next. -/
structure AtNext (call : Call) (owner : Owner) (batch : Batch) (entry : Entry) : Prop where
  live : call.ownerMatches owner = true
  collecting : call.isCollecting owner = true
  has_batch : owner.batch = some batch
  has_entry : batch.entries[batch.next_index]? = some entry

/-- An iteration reads the owner and turns to the next entry. -/
theorem Solo.iteration {owner : Owner} {batch : Batch} {entry : Entry}
    {outcome : Except JsError (Option ProcessResult)} (hat : AtNext call owner batch entry)
    (h : Solo call (iteration call) (some owner) trace outcome s') :
    (∃ error, outcome = .error error ∧ s' = some owner ∧ trace = [⟨.getOwner, .error error⟩]) ∨
      ∃ rest, trace = ⟨.getOwner, .ok (some owner)⟩ :: rest ∧
        Solo call (atEntry call owner batch batch.next_index entry) (some owner) rest outcome s' := by
  rcases Solo.getOwner_bind h with hthrow | ⟨rest, htrace, hrun⟩
  · exact .inl hthrow
  · have hbound : ¬ batch.entries.length ≤ batch.next_index := by
      have hlt := (List.getElem?_eq_some_iff.mp hat.has_entry).1
      omega
    simp only [hat.live, hat.has_batch, hat.collecting, Option.filter_some, if_true, hbound, if_false,
      hat.has_entry] at hrun
    exact .inr ⟨rest, htrace, hrun⟩

end SellerAgents.BatchQueue
