import GameDay.Cloud.Agent
import GameDay.Proofs.Estimates.Staleness
import GameDay.Proofs.Inventory.Limits
import GameDay.Proofs.Inventory.Resemblance

/-!
What the targets of one account and region depend on. Whatever all other accounts do, the same targets are
found there, but for the estimates of templates that another account has been asked for, too: those are
remembered by the template alone.
-/

namespace GameDay

open Cloud (Effect Plan Request ServiceError Scene Like SamePage FanOut Worker)

namespace Access

def At (A x : Access) : Prop := x.account = A.account ∧ x.region = A.region

instance (A x : Access) : Decidable (A.At x) := inferInstanceAs (Decidable (_ ∧ _))

theorem stamp_of_at {A x : Access} (h : A.At x) (t : Target) : x.stamp t = A.stamp t := by
  unfold stamp
  rw [h.1, h.2]

theorem Marked.at_of_reaches {A x : Access} {t : Target} (h : x.Marked t) (reached : A.reaches t) :
    A.At x := by
  simp only [reaches, h.account?, h.region?, Bool.and_eq_true, decide_eq_true_eq] at reached
  obtain ⟨account, region⟩ := reached
  split at account
  · cases account
  · split at region
    · cases region
    · exact ⟨Option.some.inj account, Option.some.inj region⟩

end Access

namespace Target

def durationKeys : List String :=
  ["aws.fis.experiment.template.duration", "aws.fis.experiment.template.duration.seconds"]

/-- The same target, or the same template but for its estimate, if that is one of those that are shared. -/
inductive Alike (shared : String → Prop) (t u : Target) : Prop
  | same (h : t.SameBut [] u)
  | estimated (asked : shared t.id) (kind : t.kind = .template) (h : t.SameBut durationKeys u)

namespace Alike

variable {shared more : String → Prop} {t u v : Target}

theorem sameBut (h : t.Alike shared u) : t.SameBut durationKeys u := by
  cases h with
  | same h => exact h.mono (List.nil_subset _)
  | estimated _ _ h => exact h

theorem mono (h : t.Alike shared u) (le : ∀ id, shared id → more id) : t.Alike more u := by
  cases h with
  | same h => exact .same h
  | estimated asked kind h => exact .estimated (le _ asked) kind h

theorem symm (h : t.Alike shared u) : u.Alike shared t := by
  cases h with
  | same h => exact .same h.symm
  | estimated asked kind h => exact .estimated (h.id ▸ asked) (h.kind ▸ kind) h.symm

theorem trans (h : t.Alike shared u) (h' : u.Alike shared v) : t.Alike shared v := by
  cases h with
  | same h =>
    cases h' with
    | same h' => exact .same (h.trans h')
    | estimated asked kind h' =>
      exact .estimated (h.id ▸ asked) (h.kind ▸ kind) ((h.mono (List.nil_subset _)).trans h')
  | estimated asked kind h => exact .estimated asked kind (h.trans h'.sameBut)

theorem stamp (h : t.Alike shared u) (A : Access) : (A.stamp t).Alike shared (A.stamp u) := by
  cases h with
  | same h => exact .same (h.stamp List.not_mem_nil List.not_mem_nil A)
  | estimated asked kind h =>
    obtain ⟨id, _, kind'⟩ := id_add t accountKey A.account
    obtain ⟨id', _, kind''⟩ := id_add (t.add accountKey A.account) regionKey A.region
    refine .estimated ?_ ?_ (h.stamp (by decide) (by decide) A)
    · rw [Access.stamp, id', id]
      exact asked
    · rw [Access.stamp, kind'', kind']
      exact kind

theorem reaches (h : t.Alike shared u) (A : Access) : A.reaches t = A.reaches u := by
  have others := h.sameBut.others
  unfold Access.reaches account? region? attribute?
  rw [others accountKey (by decide) (by decide), others regionKey (by decide) (by decide)]

end Alike

end Target

theorem forall₂_meet {α β γ : Type} {R : α → γ → Prop} {S : β → γ → Prop} {xs : List α}
    {ys : List β} {zs : List γ} (h : List.Forall₂ R xs zs) (h' : List.Forall₂ S ys zs) :
    List.Forall₂ (fun x y => ∃ z, R x z ∧ S y z) xs ys := by
  induction h generalizing ys with
  | nil =>
    cases h'
    exact .nil
  | cons here _ ih =>
    cases h' with
    | cons there rest => exact .cons ⟨_, here, there⟩ (ih rest)

namespace Inventory

open Target (Alike SameBut durationKeys)

section Plans

variable (A : Access) (tells : (r : Request) → Except ServiceError r.Answer) (shared : String → Prop)

def reply : (e : Effect) → e.Answer
  | .send _ request => tells request
  | .lookUp _ => none
  | .record _ _ => ()
  | .clock => .epoch
  | .freshId => ⟨0⟩

def Explained (id : String) (d : Duration) : Prop :=
  shared id ∨ ∃ t, tells (.getTemplate id) = .ok (some t) ∧ d = t.toActions.totalDuration

def Truthful : (e : Effect) → e.Answer → Prop
  | .send x request, answer => A.At x → request.SameAnswer answer (tells request)
  | _, _ => True

def Accounted : (e : Effect) → e.Answer → Prop
  | .send _ (.getTemplate id), answer =>
    ∀ t, answer = .ok (some t) → Explained tells shared id t.toActions.totalDuration
  | .lookUp id, known => ∀ e, known = some e → Explained tells shared id e.duration
  | _, _ => True

def Expected (e : Effect) (answer : e.Answer) : Prop :=
  Truthful A tells e answer ∧ Accounted tells shared e answer

def Recorded : Effect → Prop
  | .record id d => Explained tells shared id d
  | _ => True

variable {A tells shared}

theorem obeys_asked (x : Access) (request : Request)
    {related : (answer other : Except ServiceError request.Answer) → Prop}
    (related_of_same : ∀ {answer other}, request.SameAnswer answer other → related answer other) :
    (Plan.send x request).Obeys (Expected A tells shared) (Recorded tells shared) fun answer =>
      A.At x → related answer ((Plan.send A request).eval (reply tells)) :=
  .perform trivial fun _ expected => .done fun here => related_of_same (expected.1 here)

theorem obeys_fetchActions (x : Access) (id : String) :
    (fetchActions x id).Obeys (Expected A tells shared) (Recorded tells shared) fun actions =>
      (∀ a, actions = .ok a → Explained tells shared id a.totalDuration) ∧
      ((∃ e, actions = .error e) → A.At x → ∀ t, tells (.getTemplate id) ≠ .ok (some t)) := by
  refine (Plan.Obeys.effect trivial).bind fun answer expected => ?_
  change Except ServiceError (Option Cloud.Template) at answer
  rcases answer with e | _ | t
  · refine .pure ⟨by simp, fun _ here t told => ?_⟩
    have same : .error e = tells (.getTemplate id) := expected.1 here
    rw [told] at same
    cases same
  · refine .pure ⟨by simp, fun _ here t told => ?_⟩
    have same : .ok none = tells (.getTemplate id) := expected.1 here
    rw [told] at same
    cases same
  · refine .pure ⟨?_, by simp⟩
    rintro _ ⟨⟩
    exact expected.2 t rfl

theorem obeys_estimate (x : Access) (id : String) (lastUpdate : Timestamp) :
    (estimate (fetchActions x id) id lastUpdate).Obeys (Expected A tells shared)
      (Recorded tells shared) fun estimated =>
        (∀ d, estimated = .ok d → Explained tells shared id d) ∧
        ((∃ e, estimated = .error e) → A.At x → ∀ t, tells (.getTemplate id) ≠ .ok (some t)) := by
  refine (Plan.Obeys.effect trivial).bind fun known expected => ?_
  cases used : known.bind (·.fresh? lastUpdate) with
  | some d =>
    obtain ⟨e, rfl, fresh⟩ := Option.bind_eq_some_iff.1 used
    refine .pure ⟨?_, by simp⟩
    rintro _ ⟨⟩
    unfold Fis.Estimate.fresh? at fresh
    split at fresh
    · cases fresh
      exact expected.2 e rfl
    · cases fresh
  | none =>
    refine (obeys_fetchActions x id).bind fun actions told => ?_
    cases actions with
    | error e => exact .pure ⟨by simp, fun _ => told.2 ⟨e, rfl⟩⟩
    | ok a =>
      have explained := told.1 a rfl
      refine (Plan.Obeys.effect explained).bind fun _ _ => .pure ⟨?_, by simp⟩
      rintro _ ⟨⟩
      exact explained

theorem eval_estimate (id : String) (lastUpdate : Timestamp) :
    (estimate (fetchActions A id) id lastUpdate).eval (reply tells) =
      match tells (.getTemplate id) with
      | .ok (some t) => .ok t.toActions.totalDuration
      | .ok none => .error (.notReturned id)
      | .error e => .error (.refused id e) := by
  rw [Estimates.estimate_eq, Plan.eval]
  change ((fetchActions A id).bind (Estimates.answered id)).eval (reply tells) = _
  rw [Estimates.fetch_eq, Plan.eval]
  simp only [reply]
  rcases tells (.getTemplate id) with e | _ | t <;> rfl

theorem addDuration_left (d : Duration) (t : Target) : (addDuration d t).SameBut durationKeys t :=
  (SameBut.add_left (by decide) _).trans (SameBut.add_left (by decide) _)

theorem obeys_estimatedTarget (x : Access) (t : Cloud.TemplateSummary) :
    (estimatedTarget x t).Obeys (Expected A tells shared) (Recorded tells shared) fun found =>
      A.At x → found.Alike shared ((estimatedTarget A t).eval (reply tells)) := by
  unfold estimatedTarget
  cases named : t.id with
  | none => exact .pure fun _ => .same (.refl _ _)
  | some id =>
    cases t.lastUpdate with
    | none => exact .pure fun _ => .same (.refl _ _)
    | some lastUpdate =>
      simp only [Plan.eval_bind, eval_estimate]
      refine (obeys_estimate x id lastUpdate).bind fun estimated told => ?_
      obtain ⟨explained, unknown⟩ := told
      cases estimated with
      | error e =>
        refine .pure fun here => .same ?_
        have none := unknown ⟨e, rfl⟩ here
        rcases told : tells (.getTemplate id) with e | _ | template
        · exact .refl _ _
        · exact .refl _ _
        · exact (none template told).elim
      | ok d =>
        refine .pure fun _ => ?_
        rcases explained d rfl with asked | ⟨template, told, rfl⟩
        · have same := addDuration_left d (templateTarget t)
          obtain ⟨id_eq, kind⟩ := id_templateTarget t
          rw [named, Option.getD_some] at id_eq
          refine .estimated (by rw [same.id, id_eq]; exact asked) (by rw [same.kind, kind]) ?_
          rcases tells (.getTemplate id) with e | _ | template
          · exact same
          · exact same
          · exact same.trans (addDuration_left _ _).symm
        · -- the estimate is that of the place's own template, so no account changed it
          rw [told]
          exact .same (.refl _ _)

theorem sameBut_estimatedTarget {t u : Cloud.TemplateSummary} (h : t.Reordered u) :
    ((estimatedTarget A t).eval (reply tells)).SameBut [] ((estimatedTarget A u).eval (reply tells)) := by
  have target := sameBut_templateTarget h
  obtain ⟨tags, _, rfl⟩ := h
  obtain ⟨_ | id, description, _ | lastUpdate, own⟩ := t
  · exact target
  · exact target
  · exact target
  · simp only [estimatedTarget, Plan.eval_bind, eval_estimate]
    rcases tells (.getTemplate id) with e | _ | template
    · exact target
    · exact target
    · exact (target.add List.not_mem_nil _).add List.not_mem_nil _

theorem obeys_clusterNodes (limit : Nat) (x : Access) (arn : String) :
    (clusterNodes limit x arn).Obeys (Expected A tells shared) (Recorded tells shared) fun nodes =>
      A.At x → nodes = (clusterNodes limit A arn).eval (reply tells) := by
  have listed : (clusterNodes limit x arn).Obeys (Expected A tells shared) (Recorded tells shared)
      fun nodes => A.At x → Like Eq nodes ((clusterNodes limit A arn).eval (reply tells)) :=
    Plan.Obeys.pages_like (fun token => obeys_asked x (.listNodes arn token) SamePage.of_eq)
      (fun n => .pure fun _ _ same => .cons same .nil) _ _ _
  refine listed.mono fun nodes like here => ?_
  have same := like here
  generalize (clusterNodes limit A arn).eval (reply tells) = all at same
  cases same with
  | ok each =>
    rw [List.forall₂_eq_eq_eq] at each
    exact congrArg _ each
  | error => rfl

abbrev AlikeIfKnown (shared : String → Prop) : (found other : List (Option Target)) → Prop :=
  List.Forall₂ (Option.Rel (Alike shared))

theorem alikeIfKnown_broker (shared : String → Prop) {c d : Cloud.Cluster} (h : c.Reordered d) {x : Access} (here : A.At x)
    (nodes : List Cloud.ClusterNode) : AlikeIfKnown shared
      ((nodes.filterMap (brokerTarget? c)).map fun t => some (x.stamp t))
      ((nodes.filterMap (brokerTarget? d)).map fun t => some (A.stamp t)) := by
  have found : List.Forall₂ (SameBut []) (nodes.filterMap (brokerTarget? c))
      (nodes.filterMap (brokerTarget? d)) :=
    List.rel_filterMap (R := Eq) (fun n _ same => same ▸ rel_brokerTarget? h n)
      (List.forall₂_same.2 fun _ _ => rfl)
  refine List.forall₂_map_left_iff.2 (List.forall₂_map_right_iff.2 (found.imp fun t u same => ?_))
  rw [Access.stamp_of_at here]
  exact .some (.same (same.stamp List.not_mem_nil List.not_mem_nil A))

theorem obeys_clusterBrokers (limit : Nat) (x : Access) (c : Cloud.Cluster) :
    (clusterBrokers limit x c).Obeys (Expected A tells shared) (Recorded tells shared) fun found =>
      A.At x → ∀ d, c.Reordered d →
        AlikeIfKnown shared found ((clusterBrokers limit A d).eval (reply tells)) := by
  obtain ⟨_ | arn, name, type, state, own⟩ := c
  · refine .pure ?_
    rintro _ _ ⟨tags, _, rfl⟩
    exact .nil
  · simp only [clusterBrokers]
    split
    · rename_i addressable
      refine (obeys_clusterNodes limit x arn).bind fun nodes same => ?_
      rcases nodes with (e | _) | nodes <;> refine .pure fun here d reordered => ?_
      all_goals
        have alike (nodes) := alikeIfKnown_broker shared reordered here nodes
        obtain ⟨tags, _, rfl⟩ := reordered
        simp only [if_pos addressable, Plan.eval_bind, ← same here]
      · exact .nil
      · exact .cons .none .nil
      · exact alike nodes
    · rename_i serverless
      refine .pure ?_
      rintro _ _ ⟨tags, _, rfl⟩
      simp only [if_neg serverless]
      exact .nil

theorem like_settled {g g' : Cloud.Gathered (Option Target)} (h : g.Like (Option.Rel (Alike shared)) g') :
    Like (Alike shared) (settled g) (settled g') := by
  have known : ∀ {xs ys : List (Option Target)}, AlikeIfKnown shared xs ys →
      xs.all Option.isSome = ys.all Option.isSome := by
    intro xs ys h
    induction h with
    | nil => rfl
    | cons here _ ih => cases here <;> simp [ih]
  unfold settled
  rw [known h.found]
  split
  · exact Cloud.Gathered.Like.whole ⟨List.rel_filterMap (fun _ _ here => here) h.found, h.fault⟩
  · exact .error _

theorem obeys_ofKind (limit : Nat) (kind : TargetKind) (x : Access) :
    (ofKind limit kind x).Obeys (Expected A tells shared) (Recorded tells shared) fun r =>
      A.At x → Like (Alike shared) r ((ofKind limit kind A).eval (reply tells)) := by
  cases kind with
  | lambda =>
    refine Plan.Obeys.pages_like (fun token => obeys_asked x (.listFunctions token) SamePage.of_eq)
      (fun f => ?_) _ _ _
    refine .pure fun here _ same => ?_
    subst same
    exact .cons (.same (Access.stamp_of_at here _ ▸ .refl _ _)) .nil
  | nodeGroup =>
    refine Plan.Obeys.pages_like
      (fun token => obeys_asked x (.describeReplicationGroups token none) SamePage.of_eq)
      (fun g => ?_) _ _ _
    refine .pure fun here _ same => ?_
    subst same
    rw [Plan.eval_pure]
    refine List.forall₂_map_left_iff.2 (List.forall₂_map_right_iff.2 (List.forall₂_same.2 ?_))
    intro t _
    exact .same (Access.stamp_of_at here t ▸ .refl _ _)
  | broker =>
    refine (Plan.Obeys.gather_like (fun token => obeys_asked x (.listClusters token) id)
      (obeys_clusterBrokers limit x) _ _ _).bind fun r like => .pure fun here => ?_
    have own : (ofKind limit .broker A).eval (reply tells) = settled _ := Plan.eval_bind (reply tells) _ _
    rw [own]
    exact like_settled (like here)
  | template =>
    refine Plan.Obeys.pages_like (fun token => obeys_asked x (.listTemplates token) id) (fun t => ?_) _ _ _
    refine (obeys_estimatedTarget x t).bind fun found alike => .pure fun here u reordered => ?_
    rw [Plan.eval_bind, Plan.eval_pure, Access.stamp_of_at here]
    exact .cons (((alike here).trans (.same (sameBut_estimatedTarget reordered))).stamp A) .nil

end Plans

section Runs

variable {W : Type} (cloud : Cloud W) (A : Access)

/-- Whatever happens elsewhere, all requests to an account and region are answered in one way, with the
tags in any order. -/
def AnsweredBy (answers : (r : Request) → Except ServiceError r.Answer) : Prop :=
  ∀ x, A.At x → ∀ (request : Request) w, request.SameAnswer (cloud.send x request w).1 (answers request)

def told (unsent : ServiceError) (answers : (r : Request) → Except ServiceError r.Answer)
    (r : Request) : Except ServiceError r.Answer :=
  if r.canBeSent then answers r else .error unsent

def AskedElsewhere (s : Scene W) (id : String) : Prop :=
  ∃ x, ¬ A.At x ∧ (x, .getTemplate id) ∈ s.calls

def AllExplained (tells : (r : Request) → Except ServiceError r.Answer) (s : Scene W) : Prop :=
  ∀ id e, s.durations.get? id = some e → Explained tells (AskedElsewhere A s) id e.duration

variable {cloud A} {answers : (r : Request) → Except ServiceError r.Answer} {s s' : Scene W}

theorem Explained.mono {tells : (r : Request) → Except ServiceError r.Answer}
    {shared more : String → Prop} {id : String} {d : Duration} (h : Explained tells shared id d)
    (le : ∀ id, shared id → more id) : Explained tells more id d :=
  h.imp_left (le id)

theorem Expected.mono {tells : (r : Request) → Except ServiceError r.Answer}
    {shared more : String → Prop} {e : Effect} {answer : e.Answer} (h : Expected A tells shared e answer)
    (le : ∀ id, shared id → more id) : Expected A tells more e answer := by
  refine ⟨h.1, ?_⟩
  have accounted := h.2
  cases e with
  | send x request =>
    cases request with
    | getTemplate id => exact fun t found => (accounted t found).mono le
    | _ => trivial
  | lookUp id => exact fun e found => (accounted e found).mono le
  | record | clock | freshId => trivial

theorem askedElsewhere_perform (cloud : Cloud W) (e : Effect) (s : Scene W) (id : String)
    (h : AskedElsewhere A s id) : AskedElsewhere A (cloud.perform e s).2 id := by
  cases e with
  | send x request =>
    change AskedElsewhere A (cloud.sendNoted x request s).2 id
    unfold Cloud.sendNoted
    split
    · obtain ⟨y, other, mem⟩ := h
      exact ⟨y, other, Array.mem_push.2 (.inl mem)⟩
    · exact h
  | lookUp | record | clock | freshId => exact h

theorem expected_sendNoted (answered : AnsweredBy cloud A answers) (x : Access) (request : Request) :
    Expected A (told cloud.unsent answers) (AskedElsewhere A (cloud.sendNoted x request s).2)
      (.send x request) (cloud.sendNoted x request s).1 := by
  have truthful : A.At x →
      request.SameAnswer (cloud.sendNoted x request s).1 (told cloud.unsent answers request) := by
    intro here
    unfold Cloud.sendNoted told
    split
    · exact answered x here request s.world
    · exact .refl _ _
  refine ⟨truthful, ?_⟩
  cases request with
  | getTemplate id =>
    intro t found
    by_cases here : A.At x
    · exact .inr ⟨t, (truthful here).symm.trans found, rfl⟩
    · -- the request itself is the one that was sent elsewhere
      left
      unfold Cloud.sendNoted at found ⊢
      split
      · exact ⟨x, here, Array.mem_push_self⟩
      · rename_i unsendable
        rw [if_neg unsendable] at found
        cases found
  | _ => trivial

theorem perform_explained (answered : AnsweredBy cloud A answers)
    (h : AllExplained A (told cloud.unsent answers) s) {e : Effect}
    (recorded : Recorded (told cloud.unsent answers) (AskedElsewhere A s) e) :
    AllExplained A (told cloud.unsent answers) (cloud.perform e s).2 ∧
      Expected A (told cloud.unsent answers) (AskedElsewhere A (cloud.perform e s).2) e
        (cloud.perform e s).1 := by
  have later := askedElsewhere_perform (A := A) cloud e s
  cases e with
  | send x request =>
    refine ⟨fun id e known => ?_, expected_sendNoted answered x request⟩
    rw [Estimates.durations_send] at known
    exact (h id e known).mono later
  | record id d =>
    refine ⟨fun id' e known => ?_, trivial, trivial⟩
    change (Dictionary.insert _ _ _).get? id' = _ at known
    rw [Dictionary.get?_insert] at known
    split at known
    · rename_i same
      cases known
      subst same
      exact recorded
    · exact h id' e known
  | lookUp id => exact ⟨h, trivial, fun e known => h id e known⟩
  | clock | freshId => exact ⟨h, trivial, trivial⟩

theorem AllExplained.of_empty {tells : (r : Request) → Except ServiceError r.Answer}
    (empty : s.durations = .empty) : AllExplained A tells s := by
  intro id e known
  rw [empty] at known
  cases known

def Continues (A : Access) (tells : (r : Request) → Except ServiceError r.Answer) (s s' : Scene W) :
    Prop :=
  AllExplained A tells s' ∧ ∀ id, AskedElsewhere A s id → AskedElsewhere A s' id

theorem keeps_ofKind (answered : AnsweredBy cloud A answers) (first : Scene W) (limit : Nat)
    (kind : TargetKind) (x : Access) :
    FanOut.Course.Keeps cloud.perform
      (fun s => Expected A (told cloud.unsent answers) (AskedElsewhere A s))
      (Continues A (told cloud.unsent answers) first) ⟨x, ofKind limit kind x⟩ := by
  intro e next s reached h
  have recorded := (obeys_ofKind limit kind x).allowed_of_reached reached
  obtain ⟨explained, expected⟩ := perform_explained answered h.1 recorded
  have later := askedElsewhere_perform (A := A) cloud e s
  exact ⟨⟨explained, fun id asked => later id (h.2 id asked)⟩, fun _ _ told => told.mono later, expected⟩

/-- The targets of a place, kind after kind, as they are found if nothing is known of its templates. -/
def ownTargets (A : Access) (limit : Nat) (tells : (r : Request) → Except ServiceError r.Answer)
    (accesses : List Access) (kinds : List TargetKind) : List Target :=
  kinds.flatMap fun kind => (accesses.filter (A.At ·)).flatMap fun _ =>
    (FanOut.foundBy ((ofKind limit kind A).eval (reply tells))).filter A.reaches

theorem filter_elsewhere {kind : TargetKind} {limit : Nat} {shared : String → Prop}
    {tells : (r : Request) → Except ServiceError r.Answer} {w : Worker Target}
    {e : Access × Except Cloud.Fault (List Target)} (ends : w.EndsWith (Expected A tells shared) e)
    (plan : w.plan = ofKind limit kind w.access) (elsewhere : ¬ A.At w.access) :
    (FanOut.foundBy e.2).filter A.reaches = [] := by
  obtain ⟨access, result⟩ := e
  obtain ⟨-, reached⟩ := ends
  rw [plan] at reached
  cases result with
  | error fault => rfl
  | ok found =>
    refine List.filter_eq_nil_iff.2 fun t mem there => elsewhere ?_
    cases reached.yields (marked_ofKind limit kind w.access) with
    | done marked => exact (marked found rfl t mem).at_of_reaches there

theorem filter_endings {kind : TargetKind} {limit : Nat} {shared : String → Prop}
    {tells : (r : Request) → Except ServiceError r.Answer} {order : List (Worker Target)}
    {endings : List (Access × Except Cloud.Fault (List Target))}
    (each : List.Forall₂ (Worker.EndsWith (Expected A tells shared)) order endings)
    (workers : ∀ w ∈ order, w.plan = ofKind limit kind w.access) :
    List.Forall₂ (Alike shared) ((endings.flatMap fun e => FanOut.foundBy e.2).filter A.reaches)
      ((order.filter (A.At ·.access)).flatMap fun _ =>
        (FanOut.foundBy ((ofKind limit kind A).eval (reply tells))).filter A.reaches) := by
  induction each with
  | nil => exact .nil
  | cons here _ ih =>
    rename_i w e order endings _
    obtain ⟨plan, rest⟩ := List.forall_mem_cons.1 workers
    rw [List.flatMap_cons, List.filter_append, List.filter_cons]
    by_cases at_place : A.At w.access
    · have reached := here.2
      rw [plan] at reached
      have like := (obeys_ofKind limit kind w.access).kind_of_reached reached at_place
      have stamped := List.rel_filter (p := A.reaches) (q := A.reaches) (R := Alike shared)
        (fun t u alike => iff_of_eq (congrArg (· = true) (alike.reaches A))) like.foundBy
      rw [if_pos (decide_eq_true at_place), List.flatMap_cons]
      exact List.rel_append stamped (ih rest)
    · rw [if_neg (by simpa using at_place), filter_elsewhere here plan at_place]
      exact ih rest

theorem flatMap_filter_perm {accesses : List Access} {order : List (Worker Target)}
    {plan : Access → Cloud.Findings Target}
    (perm : order.Perm (accesses.map fun a => ⟨a, plan a⟩)) (found : List Target) :
    ((order.filter (A.At ·.access)).flatMap fun _ => found) =
      (accesses.filter (A.At ·)).flatMap fun _ => found := by
  have lengths := (perm.filter (A.At ·.access)).length_eq
  rw [List.filter_map, List.length_map] at lengths
  rw [List.flatMap_def, List.flatMap_def, List.map_const', List.map_const', lengths]
  rfl

theorem everywhere_explained (size : Nat) (accesses : List Access)
    (answered : AnsweredBy cloud A answers) (kind : TargetKind)
    (h : AllExplained A (told cloud.unsent answers) s) {found : List Target}
    (done : everywhere cloud size accesses kind s = (some found, s')) :
    Continues A (told cloud.unsent answers) s s' ∧
    List.Forall₂ (Alike (AskedElsewhere A s')) (found.filter A.reaches)
      (ownTargets A cloud.pageLimit (told cloud.unsent answers) accesses [kind]) := by
  have keeps : ∀ w ∈ seekers cloud accesses kind, FanOut.Course.Keeps cloud.perform
      (fun s => Expected A (told cloud.unsent answers) (AskedElsewhere A s))
      (Continues A (told cloud.unsent answers) s) w := by
    intro w mem
    obtain ⟨a, _, rfl⟩ := List.mem_map.1 mem
    exact keeps_ofKind answered s _ kind a
  -- choosing the order of the turns changes the world, and nothing that is remembered
  have begun : Continues A (told cloud.unsent answers) s { s with world := (cloud.turns s.world).2 } :=
    ⟨h, fun _ asked => asked⟩
  obtain ⟨-, ran⟩ := everywhere_eq_some.1 done
  obtain ⟨⟨order, perm, _, each⟩, kept⟩ := FanOut.exists_order keeps size (cloud.turns s.world).1 begun
  have plans : ∀ w ∈ order, w.plan = ofKind cloud.pageLimit kind w.access := by
    intro w mem
    obtain ⟨a, _, rfl⟩ := List.mem_map.1 (perm.mem_iff.1 mem)
    rfl
  have alike := filter_endings each plans
  rw [← FanOut.run_eq_endings, flatMap_filter_perm perm, ran] at alike
  rw [ran] at kept
  rw [ownTargets, List.flatMap_singleton]
  exact ⟨kept, alike⟩

theorem discover_explained (size : Nat) (accesses : List Access)
    (answered : AnsweredBy cloud A answers) (kinds : List TargetKind)
    (h : AllExplained A (told cloud.unsent answers) s) {targets : List Target}
    (done : discover cloud size accesses kinds s = (some targets, s')) :
    Continues A (told cloud.unsent answers) s s' ∧
    List.Forall₂ (Alike (AskedElsewhere A s')) (targets.filter A.reaches)
      (ownTargets A cloud.pageLimit (told cloud.unsent answers) accesses kinds) := by
  induction kinds generalizing s targets with
  | nil =>
    cases done
    exact ⟨⟨h, fun _ asked => asked⟩, .nil⟩
  | cons kind kinds ih =>
    obtain ⟨found, s₁, more, here, later, rfl⟩ := discover_cons_eq_some.1 done
    obtain ⟨first, alike⟩ := everywhere_explained size accesses answered kind h here
    obtain ⟨rest, alike'⟩ := ih first.1 later
    refine ⟨⟨rest.1, fun id asked => rest.2 id (first.2 id asked)⟩, ?_⟩
    simp only [List.filter_append, ownTargets, List.flatMap_cons]
    refine List.rel_append ?_ alike'
    simp only [ownTargets, List.flatMap_cons, List.flatMap_nil, List.append_nil] at alike
    exact alike.imp fun t u here => here.mono rest.2

end Runs

open Cloud (AgentState)

/-- An agent that knows of no estimates finds the same targets in an account and region, whatever all
other accounts do, except for estimates of templates that another account has been asked for. -/
theorem found_alike_but_for_shared_estimates {W₁ W₂ : Type} {cloud₁ : Cloud W₁} {cloud₂ : Cloud W₂}
    {A : Access} {answers : (r : Request) → Except ServiceError r.Answer}
    (answered₁ : AnsweredBy cloud₁ A answers) (answered₂ : AnsweredBy cloud₂ A answers)
    (unsent : cloud₁.unsent = cloud₂.unsent) (settings : Cloud.Settings) {s₁ : AgentState W₁} {s₂ : AgentState W₂}
    (registry : s₁.registry = s₂.registry) (empty₁ : s₁.scene.durations = .empty)
    (empty₂ : s₂.scene.durations = .empty) {r₁ : Reply (AgentState W₁) (List Target)}
    {r₂ : Reply (AgentState W₂) (List Target)} (done₁ : cloud₁.discover settings s₁ = some r₁)
    (done₂ : cloud₂.discover settings s₂ = some r₂) :
    (∃ e, r₁.answer = .error e ∧ r₂.answer = .error e) ∨
      ∃ found₁ found₂, r₁.answer = .ok found₁ ∧ r₂.answer = .ok found₂ ∧
        List.Forall₂
          (Alike fun id => AskedElsewhere A r₁.world.scene id ∨ AskedElsewhere A r₂.world.scene id)
          (found₁.filter A.reaches) (found₂.filter A.reaches) := by
  unfold Cloud.discover at done₁ done₂
  rw [registry] at done₁
  cases given : s₂.registry with
  | none =>
    simp only [given, Option.some.injEq] at done₁ done₂
    subst done₁ done₂
    exact .inl ⟨_, rfl, rfl⟩
  | some accesses =>
    simp only [given] at done₁ done₂
    by_cases none : accesses.isEmpty
    · simp only [none, if_true, Option.some.injEq] at done₁ done₂
      subst done₁ done₂
      exact .inl ⟨_, rfl, rfl⟩
    · rw [if_neg none] at done₁ done₂
      obtain ⟨found₁, same₁, rfl⟩ := Option.map_eq_some_iff.1 done₁
      obtain ⟨found₂, same₂, rfl⟩ := Option.map_eq_some_iff.1 done₂
      -- with the same limit for both, the searches are what they are
      let limit := max cloud₁.pageLimit cloud₂.pageLimit
      have answered₁ : AnsweredBy { cloud₁ with pageLimit := limit } A answers := answered₁
      have answered₂ : AnsweredBy { cloud₂ with pageLimit := limit } A answers := answered₂
      obtain ⟨_, alike₁⟩ := discover_explained settings.poolSize accesses.accesses answered₁
        settings.discovery.kinds (.of_empty empty₁) (discover_of_le (Prod.ext same₁ rfl) (Nat.le_max_left _ _))
      obtain ⟨_, alike₂⟩ := discover_explained settings.poolSize accesses.accesses answered₂
        settings.discovery.kinds (.of_empty empty₂) (discover_of_le (Prod.ext same₂ rfl) (Nat.le_max_right _ _))
      simp only [unsent] at alike₁
      refine .inr ⟨found₁, found₂, rfl, rfl, ?_⟩
      -- both lists are compared with the targets as they are if nothing is remembered
      have between := forall₂_meet alike₁ alike₂
      refine between.imp fun t u shared => ?_
      obtain ⟨own, first, second⟩ := shared
      exact (first.mono fun id asked => .inl asked).trans (second.symm.mono fun id asked => .inr asked)

def sevenMinutes : (r : Request) → Except ServiceError r.Answer
  | .listTemplates _ => .ok { items := [{ id := some "EXT1", lastUpdate := some ⟨1⟩ }] }
  | .getTemplate _ => .ok (some (Estimates.lasting "PT7M"))
  | _ => .error { text := "AccessDenied" }

def twoMinutes : (r : Request) → Except ServiceError r.Answer
  | .listTemplates _ => .ok { items := [{ id := some "EXT1", lastUpdate := some ⟨1⟩ }] }
  | .getTemplate _ => .ok (some (Estimates.lasting "PT2M"))
  | _ => .error { text := "AccessDenied" }

namespace twoAccounts

def first : Access := ⟨0, "1", "eu", none⟩

def second : Access := ⟨1, "2", "eu", none⟩

def cloud (elsewhere : (r : Request) → Except ServiceError r.Answer) : Cloud Unit where
  send x request w := (if second.At x then sevenMinutes request else elsewhere request, w)
  unsent := { text := "empty identifier" }
  calendar _ := ⟨5⟩
  clock _ := .zero
  freshId w := (⟨0⟩, w)
  sleep _ w := w
  turns w := ([], w)
  pageLimit := 2

theorem answered (elsewhere : (r : Request) → Except ServiceError r.Answer) :
    AnsweredBy (cloud elsewhere) second sevenMinutes := by
  intro x here request w
  have told : ((cloud elsewhere).send x request w).1 = sevenMinutes request := if_pos here
  rw [told]
  exact .refl _ _

def settings : Cloud.Settings := ⟨[], 1, ⟨false, false, false, true⟩⟩

def begun : AgentState Unit := .withRegistry () ⟨[first, second]⟩

def refused (r : Request) : Except ServiceError r.Answer := .error { text := "AccessDenied" }

theorem found_alike : ∃ r₁ r₂ found₁ found₂, (cloud twoMinutes).discover settings begun = some r₁ ∧
    (cloud refused).discover settings begun = some r₂ ∧ r₁.answer = .ok found₁ ∧ r₂.answer = .ok found₂ ∧
    List.Forall₂
      (Alike fun id => AskedElsewhere second r₁.world.scene id ∨ AskedElsewhere second r₂.world.scene id)
      (found₁.filter second.reaches) (found₂.filter second.reaches) ∧
    (found₁.filter second.reaches).map (·.id) = ["EXT1"] := by
  obtain ⟨r₁, done₁⟩ : ∃ r₁, (cloud twoMinutes).discover settings begun = some r₁ := ⟨_, rfl⟩
  obtain ⟨r₂, done₂⟩ : ∃ r₂, (cloud refused).discover settings begun = some r₂ := ⟨_, rfl⟩
  obtain ⟨e, failed, _⟩ | ⟨found₁, found₂, first, last, alike⟩ :=
    found_alike_but_for_shared_estimates (answered twoMinutes) (answered refused) rfl settings rfl rfl rfl
      done₁ done₂
  · cases done₁
    cases failed
  · refine ⟨r₁, r₂, found₁, found₂, done₁, done₂, first, last, alike, ?_⟩
    cases done₁
    obtain rfl := Except.ok.inj first
    decide +kernel

/-- The estimate of one account's template is given for that of another, which has the same id. -/
theorem other_estimate_found : ¬ ∀ (cloud₁ cloud₂ : Cloud Unit) (A : Access)
    (answers : (r : Request) → Except ServiceError r.Answer),
    AnsweredBy cloud₁ A answers → AnsweredBy cloud₂ A answers → cloud₁.unsent = cloud₂.unsent →
    ∀ (settings : Cloud.Settings) (s₁ s₂ : AgentState Unit),
      s₁.registry = s₂.registry → s₁.scene.durations = .empty → s₂.scene.durations = .empty →
      ∀ r₁ r₂, cloud₁.discover settings s₁ = some r₁ → cloud₂.discover settings s₂ = some r₂ →
        ∀ found₁ found₂, r₁.answer = .ok found₁ → r₂.answer = .ok found₂ →
          Target.SameTargets (found₁.filter A.reaches) (found₂.filter A.reaches) := by
  intro apart
  have no_label : ¬ Target.IsLabel "aws.fis.experiment.template.duration" := by decide
  have same := apart (cloud twoMinutes) (cloud refused) second sevenMinutes (answered twoMinutes)
    (answered refused) rfl settings begun begun rfl rfl rfl _ _ rfl rfl _ _ rfl rfl
  have durations := same.values_eq no_label
  revert durations
  decide +kernel

end twoAccounts

end Inventory

end GameDay
