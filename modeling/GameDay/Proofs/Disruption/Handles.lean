import GameDay.Proofs.Cloud.Parameters

namespace GameDay.Disruption

open Cloud (Action FreshIds Plan Scene)

inductive Starts (skill : String) : Plan (Except Error Handle) → Prop
  | failed (e : Error) : Starts skill (.done (.error e))
  | perform {e : Cloud.Effect} {next : e.Answer → Plan (Except Error Handle)}
      (later : ∀ answer, Starts skill (next answer)) : Starts skill (.perform e next)
  | started (t : Target) (undo : Yaml.Value) : Starts skill (started skill t undo).run

theorem Starts.bind {α : Type} {skill : String} (x : Action α) {f : α → Action Handle}
    (h : ∀ a, Starts skill (f a).run) : Starts skill (x >>= f).run := by
  have plan (p : Plan (Except Error α)) : Starts skill (p.bind (ExceptT.bindCont f)) := by
    induction p with
    | done answer =>
      cases answer with
      | ok a => exact h a
      | error e => exact .failed e
    | perform e next ih => exact .perform ih
  exact plan x.run

theorem starts_execute {d : Disruption} (h : d ∈ all) (ctx : Context Connection) :
    Starts d.descriptor.name (d.execute ctx).run := by
  simp only [all, List.mem_cons, List.not_mem_nil, or_false] at h
  rcases h with rfl | rfl | rfl | rfl
  · exact .bind _ fun _ => .bind _ fun _ => .bind _ fun _ => .bind _ fun _ => .bind _ fun _ =>
      .started _ _
  · exact .bind _ fun _ => .bind _ fun _ => .bind _ fun _ => .bind _ fun _ => .started _ _
  · refine .bind _ fun _ => .bind _ fun _ => .bind _ fun _ => .bind _ fun operation => ?_
    cases operation with
    | some operation => exact .started _ _
    | none => exact .failed _
  · refine .bind _ fun _ => .bind _ fun _ => .bind _ fun _ => .bind _ fun experiment => ?_
    cases experiment with
    | some experiment => exact .started _ _
    | none => exact .failed _

variable {W : Type} {cloud : Cloud W}

theorem Starts.spec (ids : FreshIds cloud) {skill : String} {p : Plan (Except Error Handle)}
    (starts : Starts skill p) {s s' : Scene W} {h : Handle} (hr : cloud.run p s = (.ok h, s')) :
    h.skill = skill ∧ ¬ ids.issued s.world h.id ∧ ids.issued s'.world h.id := by
  induction starts generalizing s with
  | failed e => cases hr
  | @perform e next _ ih =>
    obtain ⟨name, unused, used⟩ := ih _ hr
    exact ⟨name, fun before => unused (ids.perform_keeps e before), used⟩
  | started t undo =>
    cases hr
    exact ⟨rfl, ids.fresh s.world, ids.new s.world⟩

end GameDay.Disruption
