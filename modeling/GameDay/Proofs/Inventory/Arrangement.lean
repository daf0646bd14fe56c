import GameDay.Proofs.Inventory.Merging

namespace GameDay

open Cloud (Effect FanOut Like Plan Request Scene ServiceError Worker)

theorem flatMap_eq_of_perm {α β : Type} {f : α → List β} {xs ys : List α} (h : xs.Perm ys)
    (commute : ∀ x ∈ xs, ∀ y ∈ xs, f x ++ f y = f y ++ f x) : xs.flatMap f = ys.flatMap f := by
  induction h with
  | nil => rfl
  | cons x _ ih =>
    rw [List.flatMap_cons, List.flatMap_cons, ih]
    intro y mem z mem'
    exact commute y (List.mem_cons_of_mem _ mem) z (List.mem_cons_of_mem _ mem')
  | swap x y rest =>
    simp only [List.flatMap_cons, ← List.append_assoc]
    rw [commute y List.mem_cons_self x (List.mem_cons_of_mem _ List.mem_cons_self)]
  | trans first _ ih ih' =>
    rw [ih commute]
    apply ih'
    intro y mem z mem'
    exact commute y (first.mem_iff.2 mem) z (first.mem_iff.2 mem')

namespace Cloud

variable {α σ : Type}

theorem Plan.Yields.eval {kind : α → Prop} {p : Plan α} (h : p.Yields kind)
    (reply : (e : Effect) → e.Answer) : kind (p.eval reply) := by
  induction h with
  | done h => exact h
  | perform _ ih => exact ih (reply _)

theorem FanOut.Course.Keeps.all {ι : Type} {handle : (e : Effect) → σ → e.Answer × σ}
    {told : ι → σ → (e : Effect) → e.Answer → Prop} {I : ι → σ → Prop} {is : List ι}
    {w : Worker α}
    (each : ∀ i ∈ is, FanOut.Course.Keeps handle (told i) (I i) w) :
    FanOut.Course.Keeps handle (fun s e answer => ∀ i ∈ is, told i s e answer)
      (fun s => ∀ i ∈ is, I i s) w := by
  intro e next s reached h
  have step (i : ι) (mem : i ∈ is) :=
    each i mem (reached.mono fun _ _ here => here i mem) (h i mem)
  refine ⟨fun i mem => (step i mem).1, fun e answer here i mem => ?_, fun i mem => (step i mem).2.2⟩
  exact (step i mem).2.1 e answer (here i mem)

end Cloud

theorem Target.Alike.same_of_unshared {shared : String → Prop} {t u : Target} (h : t.Alike shared u)
    (unshared : ∀ id, ¬ shared id) : t.SameBut [] u := by
  cases h with
  | same h => exact h
  | estimated asked => exact (unshared _ asked).elim

namespace Inventory

open Target (Alike)

abbrev Answers : Type := String → String → (r : Request) → Except ServiceError r.Answer

/-- Every account and region always answers in its own way, with the tags in any order. -/
def AllAnsweredBy {W : Type} (cloud : Cloud W) (answers : Answers) : Prop :=
  ∀ (x : Access) (request : Request) w,
    request.SameAnswer (cloud.send x request w).1 (answers x.account x.region request)

section TargetsOf

variable (limit : Nat) (unsent : ServiceError) (answers : Answers)

def tellsThrough (x : Access) : (r : Request) → Except ServiceError r.Answer :=
  told unsent (answers x.account x.region)

def outcomeOf (kind : TargetKind) (x : Access) : Except Cloud.Fault (List Target) :=
  (ofKind limit kind x).eval (reply (tellsThrough unsent answers x))

/-- The targets of a kind that are found through an access if nothing is known of its templates. -/
def targetsOf (kind : TargetKind) (x : Access) : List Target :=
  FanOut.foundBy (outcomeOf limit unsent answers kind x)

variable {limit unsent answers} {kind : TargetKind} {x y : Access}

theorem described_targetsOf : ∀ t ∈ targetsOf limit unsent answers kind x,
    ∃ bare, Described kind bare ∧ t = x.stamp bare := by
  intro t mem
  have described := (described_ofKind limit kind x).eval (reply (tellsThrough unsent answers x))
  unfold targetsOf outcomeOf at mem
  cases found : (ofKind limit kind x).eval (reply (tellsThrough unsent answers x)) with
  | error e =>
    rw [found] at mem
    cases mem
  | ok targets =>
    rw [found] at mem
    exact described targets found t mem

theorem kind_targetsOf : ∀ t ∈ targetsOf limit unsent answers kind x, t.kind = kind := by
  intro t mem
  obtain ⟨bare, described, rfl⟩ := described_targetsOf t mem
  exact (kind_stamp x bare).trans described.kind_eq

theorem marked_targetsOf : ∀ t ∈ targetsOf limit unsent answers kind x, x.Marked t := by
  intro t mem
  obtain ⟨bare, described, same⟩ := described_targetsOf t mem
  exact ⟨bare, described.unplaced, same⟩

theorem eval_clusterBrokers_of_at (here : x.At y) (tells : (r : Request) → Except ServiceError r.Answer)
    (c : Cloud.Cluster) :
    (clusterBrokers limit y c).eval (reply tells) = (clusterBrokers limit x c).eval (reply tells) := by
  have listed (arn : String) :
      (clusterNodes limit y arn).eval (reply tells) = (clusterNodes limit x arn).eval (reply tells) := by
    refine Plan.eval_pages_congr (reply tells) ?_ ?_ _ _ _ <;> exact fun _ => rfl
  unfold clusterBrokers
  split
  · split
    · rw [Plan.eval_bind, Plan.eval_bind, listed]
      simp only [Access.stamp_of_at here]
    · rfl
  · rfl

theorem eval_ofKind_of_at (here : x.At y) (tells : (r : Request) → Except ServiceError r.Answer) :
    (ofKind limit kind y).eval (reply tells) = (ofKind limit kind x).eval (reply tells) := by
  cases kind with
  | lambda =>
    refine Plan.eval_pages_congr (reply tells) (fun f => ?_) ?_ _ _ _
    · simp only [Access.stamp_of_at here]
    · exact fun _ => rfl
  | nodeGroup =>
    refine Plan.eval_pages_congr (reply tells) (fun g => ?_) ?_ _ _ _
    · simp only [Plan.eval_pure, funext (Access.stamp_of_at here)]
    · exact fun _ => rfl
  | broker =>
    have settle (z : Access) : (ofKind limit .broker z).eval (reply tells) = settled ((Cloud.gather
        (fun token => .send z (.listClusters token)) .always (clusterBrokers limit z) limit none).eval
          (reply tells)) := Plan.eval_bind (reply tells) _ _
    rw [settle, settle]
    refine congrArg settled (Plan.eval_gather_congr (reply tells) ?_ ?_ _ _ _)
    · exact eval_clusterBrokers_of_at here tells
    · exact fun _ => rfl
  | template =>
    refine Plan.eval_pages_congr (reply tells) (fun t => ?_) ?_ _ _ _
    · have estimated : (estimatedTarget y t).eval (reply tells) = (estimatedTarget x t).eval (reply tells) := by
        unfold estimatedTarget
        split
        · simp only [Plan.eval_bind, eval_estimate]
        · rfl
      simp only [Plan.eval_bind, Plan.eval_pure, estimated, Access.stamp_of_at here]
    · exact fun _ => rfl

theorem targetsOf_of_at (here : x.At y) :
    targetsOf limit unsent answers kind y = targetsOf limit unsent answers kind x := by
  have tells : tellsThrough unsent answers y = tellsThrough unsent answers x := by
    unfold tellsThrough
    rw [here.1, here.2]
  unfold targetsOf outcomeOf
  rw [tells, eval_ofKind_of_at here]

end TargetsOf

def inLine (targets : TargetKind → Access → List Target) (accesses : List Access) (kinds : List TargetKind) :
    List Target :=
  kinds.flatMap fun kind => accesses.flatMap (targets kind)

/-- Kind after kind, the targets of all accesses, in some order of the accesses. -/
inductive Arranged (targets : TargetKind → Access → List Target) (accesses : List Access) :
    List TargetKind → List Target → Prop
  | nil : Arranged targets accesses [] []
  | cons {kind : TargetKind} {kinds : List TargetKind} {order : List Access} {rest : List Target}
      (perm : order.Perm accesses) (more : Arranged targets accesses kinds rest) :
      Arranged targets accesses (kind :: kinds) (order.flatMap (targets kind) ++ rest)

namespace Arranged

variable {targets : TargetKind → Access → List Target} {accesses : List Access} {kinds : List TargetKind}
  {ts : List Target}

theorem perm (h : Arranged targets accesses kinds ts) :
    ts.Perm (inLine targets accesses kinds) := by
  induction h with
  | nil => exact .nil
  | cons order _ ih => exact (order.flatMap_right _).append ih

theorem filter_eq (h : Arranged targets accesses kinds ts) {p : Target → Bool}
    (commute : ∀ kind, ∀ x ∈ accesses, ∀ y ∈ accesses,
      (targets kind x).filter p ++ (targets kind y).filter p =
        (targets kind y).filter p ++ (targets kind x).filter p) :
    ts.filter p = (inLine targets accesses kinds).filter p := by
  induction h with
  | nil => rfl
  | @cons kind _ order _ perm _ ih =>
    have piece : (order.flatMap (targets kind)).filter p = (accesses.flatMap (targets kind)).filter p := by
      rw [List.filter_flatMap, List.filter_flatMap]
      apply flatMap_eq_of_perm perm
      intro x mem y mem'
      exact commute kind x (perm.mem_iff.1 mem) y (perm.mem_iff.1 mem')
    rw [inLine, List.flatMap_cons, List.filter_append, List.filter_append, piece, ih, inLine]

end Arranged

/-- Of each kind, the targets with a property are all found in one account and region. -/
def InOnePlace (targets : TargetKind → Access → List Target) (accesses : List Access) (p : Target → Bool) :
    Prop :=
  ∀ kind, ∀ x ∈ accesses, ∀ y ∈ accesses, (∃ t ∈ targets kind x, p t = true) →
    (∃ t ∈ targets kind y, p t = true) → x.At y

section InOnePlace

variable {limit : Nat} {unsent : ServiceError} {answers : Answers} {accesses : List Access}
  {kinds : List TargetKind} {ts : List Target}

theorem Arranged.filter_one (arranged : Arranged (targetsOf limit unsent answers) accesses kinds ts)
    {p : Target → Bool} (one : InOnePlace (targetsOf limit unsent answers) accesses p) :
    ts.filter p = (inLine (targetsOf limit unsent answers) accesses kinds).filter p := by
  apply arranged.filter_eq
  intro kind x mem y mem'
  by_cases nothing : (targetsOf limit unsent answers kind x).filter p = []
  · rw [nothing, List.append_nil, List.nil_append]
  · by_cases nothing' : (targetsOf limit unsent answers kind y).filter p = []
    · rw [nothing', List.append_nil, List.nil_append]
    · -- both find such targets, so that they are accesses to one place
      obtain ⟨t, listed⟩ := List.exists_mem_of_ne_nil _ nothing
      obtain ⟨u, listed'⟩ := List.exists_mem_of_ne_nil _ nothing'
      have here := one kind x mem y mem' ⟨t, List.mem_filter.1 listed⟩ ⟨u, List.mem_filter.1 listed'⟩
      rw [targetsOf_of_at here]

theorem inOnePlace_reaches (A : Access) : InOnePlace (targetsOf limit unsent answers) accesses A.reaches := by
  rintro kind x _ y _ ⟨t, listed, reached⟩ ⟨u, listed', reached'⟩
  have here := (marked_targetsOf t listed).at_of_reaches reached
  have there := (marked_targetsOf u listed').at_of_reaches reached'
  exact ⟨there.1.trans here.1.symm, there.2.trans here.2.symm⟩

end InOnePlace

def Lent {W : Type} (targets : TargetKind → Access → List Target) (accesses : List Access) (s : Scene W)
    (id : String) : Prop :=
  ∃ x ∈ accesses, AskedElsewhere x s id ∧ ∃ t ∈ targets .template x, t.id = id

section Runs

variable {W : Type} {cloud : Cloud W} {answers : Answers} {accesses : List Access} {s s' : Scene W}

theorem AllAnsweredBy.at (answered : AllAnsweredBy cloud answers) (x : Access) :
    AnsweredBy cloud x (answers x.account x.region) := by
  intro y here request w
  have told := answered y request w
  rwa [here.1, here.2] at told

def AllContinue (cloud : Cloud W) (answers : Answers) (accesses : List Access) (s s' : Scene W) : Prop :=
  ∀ x ∈ accesses, Continues x (tellsThrough cloud.unsent answers x) s s'

theorem like_of_endsWith {kind : TargetKind} {a : Access} (mem : a ∈ accesses)
    {e : Access × Except Cloud.Fault (List Target)}
    (ends : (⟨a, ofKind cloud.pageLimit kind a⟩ : Worker Target).EndsWith
      (Expected a (tellsThrough cloud.unsent answers a) (AskedElsewhere a s)) e) :
    Like (Alike (Lent (targetsOf cloud.pageLimit cloud.unsent answers) accesses s)) e.2
      (outcomeOf cloud.pageLimit cloud.unsent answers kind a) := by
  obtain ⟨access, result⟩ := e
  have like := (obeys_ofKind cloud.pageLimit kind a).kind_of_reached ends.2 ⟨rfl, rfl⟩
  have own : ∀ t ∈ FanOut.foundBy (outcomeOf cloud.pageLimit cloud.unsent answers kind a),
      t ∈ targetsOf cloud.pageLimit cloud.unsent answers kind a := fun _ mem => mem
  change Like _ result (outcomeOf cloud.pageLimit cloud.unsent answers kind a) at like
  generalize outcomeOf cloud.pageLimit cloud.unsent answers kind a = outcome at like own
  cases like with
  | error e => exact .error e
  | ok alike =>
    have among := (List.forall₂_and_left (p := (· ∈ targetsOf cloud.pageLimit cloud.unsent answers kind a))
      _ _).2 ⟨own, alike.flip⟩
    refine .ok (among.flip.imp fun t u ⟨listed, alike⟩ => ?_)
    cases alike with
    | same h => exact .same h
    | estimated asked template h =>
      refine .estimated ⟨a, mem, asked, u, ?_, h.id.symm⟩ template h
      have this : kind = .template := by
        rw [← kind_targetsOf u listed, ← h.kind, template]
      rw [← this]
      exact listed

theorem exists_access_order (answered : AllAnsweredBy cloud answers) (size : Nat) (kind : TargetKind)
    (h : ∀ x ∈ accesses, AllExplained x (tellsThrough cloud.unsent answers x) s) :
    let s' := (everywhere cloud size accesses kind s).2
    AllContinue cloud answers accesses s s' ∧ ∃ order : List Access, order.Perm accesses ∧
      List.Forall₂ (fun a e =>
          Like (Alike (Lent (targetsOf cloud.pageLimit cloud.unsent answers) accesses s')) e.2
            (outcomeOf cloud.pageLimit cloud.unsent answers kind a)) order
        (FanOut.endings cloud.perform size (seekers cloud accesses kind) (cloud.turns s.world).1
          { s with world := (cloud.turns s.world).2 }) := by
  have keeps : ∀ w ∈ seekers cloud accesses kind,
      FanOut.Course.Keeps cloud.perform
        (fun s e answer => ∀ x ∈ accesses,
          Expected x (tellsThrough cloud.unsent answers x) (AskedElsewhere x s) e answer)
        (AllContinue cloud answers accesses s) w := by
    intro w mem
    obtain ⟨a, _, rfl⟩ := List.mem_map.1 mem
    exact .all fun x _ => keeps_ofKind (answered.at x) s _ kind a
  have begun : AllContinue cloud answers accesses s { s with world := (cloud.turns s.world).2 } :=
    fun x mem => ⟨h x mem, fun _ asked => asked⟩
  obtain ⟨⟨order, perm, -, each⟩, kept⟩ := FanOut.exists_order keeps size (cloud.turns s.world).1 begun
  refine ⟨kept, order.map (·.access), ?_, ?_⟩
  · have accesses_perm := perm.map (·.access)
    unfold seekers at accesses_perm
    rwa [List.map_map, List.map_id''] at accesses_perm
    exact fun _ => rfl
  · refine List.forall₂_map_left_iff.2 ?_
    have among := (List.forall₂_and_left (p := (· ∈ seekers cloud accesses kind)) _ _).2
      ⟨fun w mem => perm.mem_iff.1 mem, each⟩
    refine among.imp fun w e ⟨known, ends⟩ => ?_
    obtain ⟨a, mem, rfl⟩ := List.mem_map.1 known
    exact like_of_endsWith mem ⟨ends.1, ends.2.mono fun _ _ told => told a mem⟩

section Likes

variable {R : Target → Target → Prop} {order : List Access} {outcome : Access → Except Cloud.Fault (List Target)}
  {endings : List (Access × Except Cloud.Fault (List Target))}
  (each : List.Forall₂ (fun a e => Like R e.2 (outcome a)) order endings)
include each

theorem ends_iff_of_like : (∀ result ∈ endings.map Prod.snd, result ≠ .error .endless) ↔
    ∀ a ∈ order, outcome a ≠ .error .endless := by
  rw [List.forall_mem_map]
  induction each with
  | nil => simp
  | cons here _ ih => rw [List.forall_mem_cons, List.forall_mem_cons, ih, Ne, Ne, here.endless_iff]

theorem found_of_like : List.Forall₂ R (endings.flatMap fun e => FanOut.foundBy e.2)
    (order.flatMap fun a => FanOut.foundBy (outcome a)) := by
  induction each with
  | nil => exact .nil
  | cons here _ ih =>
    rw [List.flatMap_cons, List.flatMap_cons]
    exact List.rel_append here.foundBy ih

end Likes

def AllEnd (cloud : Cloud W) (answers : Answers) (accesses : List Access) (kind : TargetKind) : Prop :=
  ∀ a ∈ accesses, outcomeOf cloud.pageLimit cloud.unsent answers kind a ≠ .error .endless

theorem everywhere_arranged (answered : AllAnsweredBy cloud answers) (size : Nat) (kind : TargetKind)
    (h : ∀ x ∈ accesses, AllExplained x (tellsThrough cloud.unsent answers x) s) :
    let r := everywhere cloud size accesses kind s
    AllContinue cloud answers accesses s r.2 ∧ (r.1.isSome ↔ AllEnd cloud answers accesses kind) ∧
    ∀ found, r.1 = some found → ∃ order : List Access, order.Perm accesses ∧
      List.Forall₂ (Alike (Lent (targetsOf cloud.pageLimit cloud.unsent answers) accesses r.2)) found
        (order.flatMap (targetsOf cloud.pageLimit cloud.unsent answers kind)) := by
  intro r
  obtain ⟨kept, order, perm, each⟩ := exists_access_order answered size kind h
  refine ⟨kept, ?_, fun found done => ⟨order, perm, ?_⟩⟩
  · have ends : r.1.isSome ↔ ∀ result ∈ (FanOut.endings cloud.perform size (seekers cloud accesses kind)
        (cloud.turns s.world).1 { s with world := (cloud.turns s.world).2 }).map Prod.snd,
          result ≠ .error .endless := by
      rw [FanOut.endings, ← uncut_iff]
      simp only [r, everywhere]
      split <;> simp_all
    have same : AllEnd cloud answers accesses kind ↔
        ∀ a ∈ order, outcomeOf cloud.pageLimit cloud.unsent answers kind a ≠ .error .endless :=
      forall_congr' fun a => by rw [perm.mem_iff]
    rw [ends, same, ends_iff_of_like each]
  · obtain ⟨-, ran⟩ := everywhere_eq_some.1 (Prod.ext done rfl)
    obtain rfl : _ = found := congrArg Prod.fst ran
    rw [FanOut.run_eq_endings]
    exact found_of_like each

theorem Lent.mono {targets : TargetKind → Access → List Target} {id : String}
    (continues : AllContinue cloud answers accesses s s') (h : Lent targets accesses s id) :
    Lent targets accesses s' id := by
  obtain ⟨x, mem, asked, listed⟩ := h
  exact ⟨x, mem, (continues x mem).2 id asked, listed⟩

theorem discover_isSome_iff (answered : AllAnsweredBy cloud answers) (size : Nat) (kinds : List TargetKind)
    (h : ∀ x ∈ accesses, AllExplained x (tellsThrough cloud.unsent answers x) s) :
    (discover cloud size accesses kinds s).1.isSome ↔ ∀ kind ∈ kinds, AllEnd cloud answers accesses kind := by
  induction kinds generalizing s with
  | nil => simp [discover]
  | cons kind kinds ih =>
    obtain ⟨first, ends, -⟩ := everywhere_arranged answered size kind h
    have later := ih fun x mem => (first x mem).1
    rw [List.forall_mem_cons, ← ends, ← later]
    cases here : everywhere cloud size accesses kind s with
    | mk found s₁ => cases found <;> simp [discover, here]

theorem discover_arranged (answered : AllAnsweredBy cloud answers) (size : Nat) (kinds : List TargetKind)
    (h : ∀ x ∈ accesses, AllExplained x (tellsThrough cloud.unsent answers x) s) {found : List Target}
    (done : discover cloud size accesses kinds s = (some found, s')) :
    AllContinue cloud answers accesses s s' ∧
    ∃ ts, Arranged (targetsOf cloud.pageLimit cloud.unsent answers) accesses kinds ts ∧
      List.Forall₂ (Alike (Lent (targetsOf cloud.pageLimit cloud.unsent answers) accesses s')) found ts := by
  induction kinds generalizing s found with
  | nil =>
    cases done
    exact ⟨fun x mem => ⟨h x mem, fun _ asked => asked⟩, [], .nil, .nil⟩
  | cons kind kinds ih =>
    obtain ⟨part, s₁, more, here, rest, rfl⟩ := discover_cons_eq_some.1 done
    obtain ⟨first, -, arranged⟩ := everywhere_arranged answered size kind h
    rw [here] at first arranged
    obtain ⟨order, perm, alike⟩ := arranged part rfl
    obtain ⟨later, ts, arranged, alike'⟩ := ih (fun x mem => (first x mem).1) rest
    refine ⟨fun x mem => ⟨(later x mem).1, ?_⟩, _, .cons perm arranged, List.rel_append (alike.imp ?_) alike'⟩
    · exact fun id asked => (later x mem).2 id ((first x mem).2 id asked)
    · exact fun t u here => here.mono fun _ lent => lent.mono later

end Runs

end Inventory

end GameDay
