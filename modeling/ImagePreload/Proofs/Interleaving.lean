import ImagePreload.Proofs.Deadline
import ImagePreload.Proofs.Namespaces
import Mathlib.Logic.Relation

/-!
# Sweeps at the same time

Several programs may work on one cluster. Each of them is a party that acts by
itself, one request, sleep, note or look at the clock at a time, and between any
two acts of a party the others may act and namespaces may go (`World.Next`).

What a party goes through among others it could go through alone: it knows of
the others only by the replies that it gets, and against a recording that plays
these back its program takes the same course (`Party.Follows`). So everything
that is known of sweeps that run alone is known of sweeps that run at the same
time, but for what the cluster looks like, which a recording does not say. Of
that two facts are carried along: each reply was true of the namespaces that the
request found, and since nobody creates any, what is found later is within what
was found before (`Party.Lawful`).
-/

namespace ImagePreload

theorem ClusterFailure.isAnswer_of_isNotFound {f : ClusterFailure} (h : f.isNotFound = true) :
    f.isAnswer = true := by
  rw [ClusterFailure.isNotFound, Bool.and_eq_true, Bool.or_eq_true, beq_iff_eq, beq_iff_eq] at h
  rw [ClusterFailure.isAnswer]
  rcases h.1 with hkind | hkind
  · rw [hkind]
    rfl
  · rw [hkind]
    rfl

/-! ## Parties -/

/-- How a cluster answers sweeps when nothing is wrong with it: it finds what is
there, marks for deletion what is there, whether or not somebody had asked for
that, and refuses only to delete what is not. -/
inductive Serves : Request → Namespaces → Reply → Namespaces → Prop where
  | listed {selector : Selector} {c : Namespaces} {names : List String} (once : names.Nodup)
    (found : ∀ name, name ∈ names ↔ ∃ ns, c name = some ns ∧ selector.finds ns.labels = true) :
    Serves (.list selector) c (.ok names) c
  | deleted {name : String} {ns : Namespace} {c : Namespaces} (names : List String)
    (present : c name = some ns) :
    Serves (.delete name) c (.ok names)
      (Function.update c name (some { ns with deleting := true }))
  | gone {name : String} {c : Namespaces} {f : ClusterFailure} (absent : c name = none)
    (notFound : f.isNotFound = true) : Serves (.delete name) c (.error f) c

theorem Serves.within {request : Request} {c c' : Namespaces} {reply : Reply}
    (h : Serves request c reply c') : Within c c' := by
  cases h with
  | listed once found => exact .refl c
  | deleted names present => exact (Answers.deleted names present).within fun _ => nofun
  | gone absent notFound => exact .refl c

variable {ε τ α ι σ σ' : Type}

/-- A program under way, with the time it is for it and what it went through. -/
structure Party (ε τ α : Type) where
  program : Program ε τ α
  now : τ
  steps : List (Step Namespaces τ)

/-- The acts of a party, and what they make of the cluster's namespaces. A reply
may take any while, but no time may run back over it. -/
inductive Party.Acts [Clock τ] :
    Party ε τ α → Namespaces → Party ε τ α → Namespaces → Prop where
  | notes {level : Level} {message : String} {next : Program ε τ α} {now : τ}
    {steps : List (Step Namespaces τ)} {c : Namespaces} :
    Acts ⟨.note level message next, now, steps⟩ c
      ⟨next, now, steps ++ [.noted level message]⟩ c
  | asks {request : Request} {next : Reply → Program ε τ α} {now : τ}
    {steps : List (Step Namespaces τ)} {c c' : Namespaces} {reply : Reply} (duration : Option τ)
    (served : Serves request c reply c')
    (forward : Clock.reached (Clock.afterWhile now duration) now = true) :
    Acts ⟨.ask request next, now, steps⟩ c
      ⟨next reply, Clock.afterWhile now duration, steps ++ [.asked c now request reply]⟩ c'
  | sleeps {duration : τ} {next : Program ε τ α} {now : τ} {steps : List (Step Namespaces τ)}
    {c : Namespaces} :
    Acts ⟨.sleep duration next, now, steps⟩ c
      ⟨next, Clock.after now duration, steps ++ [.slept now duration]⟩ c
  | reads {next : τ → Program ε τ α} {now : τ} {steps : List (Step Namespaces τ)}
    {c : Namespaces} :
    Acts ⟨.clock next, now, steps⟩ c ⟨next now, now, steps⟩ c

/-- Parties that work on one cluster. -/
structure World (ι ε τ α : Type) where
  namespaces : Namespaces
  parties : ι → Party ε τ α

/-- What may happen next: a namespace goes, asked for or not, or a party acts. -/
inductive World.Next [Clock τ] [DecidableEq ι] : World ι ε τ α → World ι ε τ α → Prop where
  | removed {w : World ι ε τ α} (name : String) :
    Next w { w with namespaces := Function.update w.namespaces name none }
  | acted {w : World ι ε τ α} (i : ι) {p : Party ε τ α} {c : Namespaces}
    (acts : (w.parties i).Acts w.namespaces p c) :
    Next w ⟨c, Function.update w.parties i p⟩

/-- What may have happened after a while, whoever acted when. -/
abbrev World.Leads [Clock τ] [DecidableEq ι] (w w' : World ι ε τ α) : Prop :=
  Relation.ReflTransGen World.Next w w'

/-! ## Playing back -/

namespace Step

/-- A step with what it found seen in another way. -/
def mapFound (f : σ → σ') : Step σ τ → Step σ' τ
  | .noted level message => .noted level message
  | .asked found now request reply => .asked (f found) now request reply
  | .slept now duration => .slept now duration

/-- What a request found. -/
def found? : Step σ τ → Option σ
  | .asked found _ _ _ => some found
  | _ => none

@[simp] theorem found?_noted (level : Level) (message : String) :
    (noted level message : Step σ τ).found? = none := rfl

@[simp] theorem found?_asked (found : σ) (now : τ) (request : Request) (reply : Reply) :
    (asked found now request reply).found? = some found := rfl

@[simp] theorem found?_slept (now duration : τ) :
    (slept now duration : Step σ τ).found? = none := rfl

/-- The namespace whose deletion was asked for. -/
def deletion? : Step σ τ → Option String
  | .asked _ _ (.delete name) _ => some name
  | _ => none

theorem deletion?_delete (found : σ) (now : τ) (name : String) (reply : Reply) :
    (asked found now (.delete name) reply).deletion? = some name := rfl

theorem found?_mapFound (f : σ → σ') (step : Step σ τ) :
    (step.mapFound f).found? = step.found?.map f := by
  cases step <;> rfl

theorem deletion?_mapFound (f : σ → σ') (step : Step σ τ) :
    (step.mapFound f).deletion? = step.deletion? := by
  cases step with
  | noted level message => rfl
  | slept now duration => rfl
  | asked found now request reply => cases request <;> rfl

end Step

/-- What requests found, how long they took and what they got. -/
abbrev Recording (τ : Type) := List (Namespaces × Option τ × Reply)

namespace Recording

/-- Plays back one entry for each request, whatever it asks for. -/
def answer : Answerer (Recording τ) τ := fun _ r =>
  match r with
  | [] => (none, .ok [], [])
  | (_, duration, reply) :: rest => (duration, reply, rest)

/-- What the next request found. -/
def found : Recording τ → Namespaces
  | [] => fun _ => none
  | (c, _, _) :: _ => c

/-- In no entry does time run back. -/
def IsForward [Clock τ] (r : Recording τ) : Prop :=
  ∀ entry ∈ r, ∃ now, Clock.reached (Clock.afterWhile now entry.2.1) now = true

theorem IsForward.forward [Clock τ] {seconds : τ → ℚ} (exact : Clock.Exact seconds)
    {r : Recording τ} (h : r.IsForward) : answer.Forward seconds r := by
  intro r' hreaches request duration hduration
  have hsub : r' ⊆ r := by
    clear hduration
    induction hreaches with
    | start => exact fun _ hmem => hmem
    | @after r' request _ ih =>
        cases r' with
        | nil => exact ih
        | cons entry rest => exact fun _ hmem => ih (List.mem_cons_of_mem _ hmem)
  cases r' with
  | nil => cases hduration
  | cons entry rest =>
      obtain ⟨now, hnow⟩ := h entry (hsub List.mem_cons_self)
      have hentry : entry.2.1 = some duration := hduration
      rw [hentry, Clock.afterWhile, exact.reached, exact.after] at hnow
      linarith

end Recording

/-- A party that began with a program does what the program does alone, against
a recording of its own in which no time runs back. -/
def Party.Follows [Clock τ] (p : Party ε τ α) (program : Program ε τ α) (start : τ) : Prop :=
  ∃ r : Recording τ, r.IsForward ∧
    ∀ more, ∃ steps,
      program.course Recording.answer (r ++ more) start =
        (p.program.course Recording.answer more p.now).precede steps ∧
      steps.map (Step.mapFound Recording.found) = p.steps

section

variable [Clock τ] {program : Program ε τ α} {start : τ} {p p' : Party ε τ α} {c c' : Namespaces}

theorem Party.follows_self (program : Program ε τ α) (start : τ) :
    Party.Follows ⟨program, start, []⟩ program start :=
  ⟨[], fun _ hmem => absurd hmem List.not_mem_nil, fun _ => ⟨[], rfl, rfl⟩⟩

/-- Whatever a party does next, it does it alone as well. -/
theorem Party.Acts.follows (h : p.Acts c p' c') (hp : p.Follows program start) :
    p'.Follows program start := by
  obtain ⟨r, hforward, hr⟩ := hp
  cases h with
  | @notes level message next now steps c =>
      refine ⟨r, hforward, fun more => ?_⟩
      obtain ⟨before, hcourse, rfl⟩ := hr more
      refine ⟨before ++ [.noted level message], ?_, by simp [Step.mapFound]⟩
      rw [hcourse, Program.course, Course.precede_precede]
  | @sleeps duration next now steps c =>
      refine ⟨r, hforward, fun more => ?_⟩
      obtain ⟨before, hcourse, rfl⟩ := hr more
      refine ⟨before ++ [.slept now duration], ?_, by simp [Step.mapFound]⟩
      rw [hcourse, Program.course, Course.precede_precede]
  | reads => exact ⟨r, hforward, hr⟩
  | @asks request next now steps c c' reply duration served hlater =>
      -- the reply is recorded at the end
      refine ⟨r ++ [(c, duration, reply)], ?_, fun more => ?_⟩
      · intro entry hentry
        rcases List.mem_append.1 hentry with hentry | hentry
        · exact hforward entry hentry
        · rw [List.mem_singleton.1 hentry]
          exact ⟨now, hlater⟩
      · obtain ⟨before, hcourse, rfl⟩ := hr ((c, duration, reply) :: more)
        refine ⟨before ++ [.asked ((c, duration, reply) :: more) now request reply], ?_, ?_⟩
        · rw [List.append_assoc, List.singleton_append, hcourse, Program.course,
            Course.precede_precede]
          rfl
        · rw [List.map_append]
          rfl

/-! ## What parties find -/

/-- The replies that a party got were true of what its requests found, and what
it found later is within what it had found before, down to what is there now. -/
structure Party.Lawful (p : Party ε τ α) (c : Namespaces) : Prop where
  served : ∀ found t request reply, .asked found t request reply ∈ p.steps →
    ∃ c', Serves request found reply c'
  ordered : (p.steps.filterMap Step.found?).Pairwise Within
  within : ∀ found ∈ p.steps.filterMap Step.found?, Within found c

omit [Clock τ] in
theorem Party.lawful_self (program : Program ε τ α) (start : τ) (c : Namespaces) :
    Party.Lawful ⟨program, start, []⟩ c :=
  ⟨by simp, .nil, by simp⟩

omit [Clock τ] in
theorem Party.Lawful.of_within (h : p.Lawful c) (hc : Within c c') : p.Lawful c' :=
  ⟨h.served, h.ordered, fun found hmem => (h.within found hmem).trans hc⟩

theorem Party.Acts.within (h : p.Acts c p' c') : Within c c' := by
  cases h with
  | asks duration served forward => exact served.within
  | notes | sleeps | reads => exact .refl c

theorem Party.Acts.lawful (h : p.Acts c p' c') (hp : p.Lawful c) : p'.Lawful c' := by
  cases h with
  | notes | sleeps =>
      exact ⟨fun found t request reply hmem =>
          hp.served found t request reply (by simpa using hmem),
        by simpa [List.filterMap_cons] using hp.ordered,
        by simpa [List.filterMap_cons] using hp.within⟩
  | reads => exact ⟨hp.served, hp.ordered, hp.within⟩
  | @asks request next now steps c c' reply duration hserved hlater =>
      have hfound : (steps ++ [Step.asked c now request reply]).filterMap Step.found? =
          steps.filterMap Step.found? ++ [c] := by
        rw [List.filterMap_append]
        rfl
      refine ⟨fun found t request' reply' hmem => ?_, ?_, fun found hmem => ?_⟩
      · rcases List.mem_append.1 hmem with hmem | hmem
        · exact hp.served found t request' reply' hmem
        · injection List.mem_singleton.1 hmem with h₁ h₂ h₃ h₄
          rw [h₁, h₃, h₄]
          exact ⟨c', hserved⟩
      · rw [hfound, List.pairwise_append]
        refine ⟨hp.ordered, List.pairwise_singleton _ _, fun found hmem other hother => ?_⟩
        rw [List.mem_singleton.1 hother]
        exact hp.within found hmem
      · rw [hfound] at hmem
        rcases List.mem_append.1 hmem with hmem | hmem
        · exact (hp.within found hmem).trans hserved.within
        · rw [List.mem_singleton.1 hmem]
          exact hserved.within

end

section

variable [Clock τ] [DecidableEq ι] {w w' : World ι ε τ α}

theorem World.Next.within (h : World.Next w w') : Within w.namespaces w'.namespaces := by
  cases h with
  | acted i acts => exact acts.within
  | removed name =>
      intro other ns hns
      dsimp only at hns
      by_cases hother : other = name
      · rw [hother, Function.update_self] at hns
        cases hns
      · rw [Function.update_of_ne hother] at hns
        exact ⟨ns, hns, rfl⟩

theorem World.Leads.within (h : World.Leads w w') : Within w.namespaces w'.namespaces := by
  induction h with
  | refl => exact .refl _
  | tail _ hnext ih => exact ih.trans hnext.within

/-- Whoever acts, every party goes on as it would alone, and got what was true. -/
theorem World.Next.keeps (h : World.Next w w') {programs : ι → Program ε τ α} {starts : ι → τ}
    (hw : ∀ i, (w.parties i).Follows (programs i) (starts i) ∧
      (w.parties i).Lawful w.namespaces) (i : ι) :
    (w'.parties i).Follows (programs i) (starts i) ∧ (w'.parties i).Lawful w'.namespaces := by
  obtain ⟨hfollows, hlawful⟩ := hw i
  have hwithin := h.within
  cases h with
  | removed name => exact ⟨hfollows, hlawful.of_within hwithin⟩
  | @acted j p c acts =>
      by_cases hij : i = j
      · subst hij
        simp only [Function.update_self]
        exact ⟨acts.follows hfollows, acts.lawful hlawful⟩
      · simp only [Function.update_of_ne hij]
        exact ⟨hfollows, hlawful.of_within hwithin⟩

theorem World.Leads.keeps (h : World.Leads w w') {programs : ι → Program ε τ α} {starts : ι → τ}
    (hw : ∀ i, w.parties i = ⟨programs i, starts i, []⟩) (i : ι) :
    (w'.parties i).Follows (programs i) (starts i) ∧ (w'.parties i).Lawful w'.namespaces := by
  induction h generalizing i with
  | refl =>
      rw [hw i]
      exact ⟨Party.follows_self .., Party.lawful_self ..⟩
  | tail _ hnext ih => exact hnext.keeps ih i

end

/-! ## Sweeps whose requests are served -/

/-- The deletions among steps are those among their requests. -/
theorem filterMap_deletion?_calls (steps : List (Step σ τ)) :
    (calls steps).filterMap Step.deletion? = steps.filterMap Step.deletion? := by
  induction steps with
  | nil => rfl
  | cons step steps ih =>
      cases step with
      | noted level message => exact ih
      | slept now duration => exact ih
      | asked found now request reply =>
          rw [calls_asked, List.filterMap_cons, List.filterMap_cons, ih]

theorem filterMap_deletion?_eq {steps : List (Step σ τ)} {names : List String}
    (h : (calls steps).map Step.event = names.map fun name => .ask (.delete name)) :
    steps.filterMap Step.deletion? = names := by
  rw [← filterMap_deletion?_calls]
  generalize calls steps = steps at h
  induction steps generalizing names with
  | nil =>
      rw [List.map_nil, eq_comm, List.map_eq_nil_iff] at h
      rw [h]
      rfl
  | cons step steps ih =>
      obtain ⟨name, rest, rfl, hstep, hrest⟩ := List.map_eq_cons_iff.1 h.symm
      obtain ⟨found, t, reply, rfl⟩ := Step.event_eq_ask hstep.symm
      rw [List.filterMap_cons_some (Step.deletion?_delete ..), ih hrest.symm]

/-- All requests among some steps were served, each with what it found, and
nothing was created between them. -/
structure AllServed (view : σ → Namespaces) (steps : List (Step σ τ)) : Prop where
  served : ∀ found t request reply, .asked found t request reply ∈ steps →
    ∃ c', Serves request (view found) reply c'
  ordered : (steps.filterMap Step.found?).Pairwise fun c c' => Within (view c) (view c')

namespace AllServed

variable {view : σ → Namespaces} {steps : List (Step σ τ)} {found : σ} {t : τ}
  {selector : Selector} {f : ClusterFailure}

theorem not_unlisted (h : AllServed view steps) :
    .asked found t (.list selector) (.error f) ∉ steps := by
  intro hmem
  obtain ⟨_, hserved⟩ := h.served _ _ _ _ hmem
  cases hserved

theorem listed (h : AllServed view steps) {names : List String}
    (hmem : .asked found t (.list selector) (.ok names) ∈ steps) :
    names.Nodup ∧ ∀ name, name ∈ names ↔
      ∃ ns, view found name = some ns ∧ selector.finds ns.labels = true := by
  obtain ⟨_, hserved⟩ := h.served _ _ _ _ hmem
  cases hserved with
  | listed once found => exact ⟨once, found⟩

theorem isNotFound (h : AllServed view steps) {name : String}
    (hmem : .asked found t (.delete name) (.error f) ∈ steps) : f.isNotFound = true := by
  obtain ⟨_, hserved⟩ := h.served _ _ _ _ hmem
  cases hserved with
  | gone absent notFound => exact notFound

/-- No deletion failed but for what was gone. -/
theorem failedDeletion?_eq_none (h : AllServed view steps) :
    (calls steps).filterMap Step.failedDeletion? = [] := by
  rw [List.filterMap_eq_nil_iff]
  intro step hmem
  unfold Step.failedDeletion?
  split
  · exact if_pos (h.isNotFound (mem_of_mem_calls hmem))
  · rfl

theorem not_cutShort (h : AllServed view steps) {names : List String}
    {c : Course PreloadFailure τ (List (String × ClusterFailure)) σ} (hsub : c.steps ⊆ steps) :
    ¬ CutShort names c := by
  intro hcut
  obtain ⟨f, found, t, name, hmem, hf, -⟩ := hcut.outcome
  rw [ClusterFailure.isAnswer_of_isNotFound (h.isNotFound (hsub hmem))] at hf
  cases hf

end AllServed

/-- A name that a listing found and a later one did not is gone. -/
theorem eq_none_of_unlisted {selector : Selector} {c c' : Namespaces} {names listed : List String}
    (hnames : ∀ name, name ∈ names ↔ ∃ ns, c name = some ns ∧ selector.finds ns.labels = true)
    (hlisted : ∀ name, name ∈ listed ↔
      ∃ ns, c' name = some ns ∧ selector.finds ns.labels = true) (hwithin : Within c c')
    {name : String} (hname : name ∈ names) (hgone : name ∉ listed) : c' name = none := by
  cases hc' : c' name with
  | none => rfl
  | some ns' =>
      obtain ⟨ns, hns, hfinds⟩ := (hnames name).1 hname
      obtain ⟨ns₀, hns₀, hlabels⟩ := hwithin name ns' hc'
      rw [hns, Option.some.injEq] at hns₀
      subst hns₀
      rw [hlabels] at hfinds
      exact absurd ((hlisted name).2 ⟨ns', hc', hfinds⟩) hgone

section

variable [Clock τ] {answer : Answerer σ τ} {view : σ → Namespaces}

theorem Sweep.waiting_deletions (sw : Sweep τ) (answer : Answerer σ τ) (s : σ) (now : τ)
    (names : List String) :
    (sw.waiting answer s now names).steps.filterMap Step.deletion? = [] := by
  rw [List.filterMap_eq_nil_iff]
  intro step hmem
  cases step with
  | noted level message => rfl
  | slept t duration => rfl
  | asked found t request reply =>
      rw [Sweep.waiting_requests hmem]
      rfl

/-- A sweep whose requests are all served asks once for the deletion of each name
that it found. It succeeds with all of them gone, or times out. -/
theorem Sweep.run_served {sw : Sweep τ} {s : σ} {now : τ}
    (h : AllServed view (sw.run.course answer s now).steps)
    {result : Except PreloadFailure (List String)}
    (hresult : (sw.run.course answer s now).outcome = some result) :
    ∃ names rest, (sw.run.course answer s now).steps =
        .asked s now (.list sw.selector) (.ok names) :: rest ∧ names.Nodup ∧
      rest.filterMap Step.deletion? = names ∧
      ((result = .ok names ∧ ∃ found ∈ (sw.run.course answer s now).steps.filterMap Step.found?,
          ∀ name ∈ names, view found name = none) ∨
        ∃ remaining, result = .error (.timeout remaining)) := by
  cases sw.run_went answer s now with
  | refused hlisted hc =>
      rw [hc] at h
      exact absurd List.mem_cons_self h.not_unlisted
  | cut hlisted hcut hc =>
      rw [hc] at h
      exact absurd hcut (h.not_cutShort fun _ hmem => List.mem_cons_of_mem _ hmem)
  | failed hlisted hdeleted hfailed hc =>
      rw [hc] at h
      exact absurd h.failedDeletion?_eq_none hfailed
  | empty hlisted hc =>
      rw [hc] at hresult ⊢
      cases hresult
      exact ⟨[], [], rfl, .nil, rfl, Or.inl ⟨rfl, s, List.mem_cons_self, by simp⟩⟩
  | @waited names hlisted hnames hdeleted hfailed hc =>
      obtain ⟨seen, last, hpolled, hout, -⟩ := sw.waiting_course answer s now names
      obtain ⟨before, found, t, hlast, -⟩ := hpolled.last_step
      have hpoll : .asked found t (.list sw.selector) last ∈
          (sw.deletions answer s now names).steps ++ (sw.waiting answer s now names).steps := by
        refine List.mem_append_right _ (mem_of_mem_calls ?_)
        rw [hlast]
        exact List.mem_append_right _ List.mem_cons_self
      rw [hc] at h hresult ⊢
      obtain ⟨honce, hnamesIff⟩ := h.listed List.mem_cons_self
      refine ⟨names, _, rfl, honce, ?_, ?_⟩
      · rw [List.filterMap_append, filterMap_deletion?_eq hdeleted.events, Sweep.waiting_deletions,
          List.append_nil]
      · cases last with
        | error f => exact absurd (List.mem_cons_of_mem _ hpoll) h.not_unlisted
        | ok listed =>
            simp only [hout, Sweep.verdict] at hresult
            split at hresult
            · next hgone =>
                cases hresult
                have hfound : found ∈ ((sw.deletions answer s now names).steps ++
                    (sw.waiting answer s now names).steps).filterMap Step.found? :=
                  List.mem_filterMap.2 ⟨_, hpoll, rfl⟩
                have hwithin := (List.pairwise_cons.1 h.ordered).1 found hfound
                have hlistedIff := (h.listed (List.mem_cons_of_mem _ hpoll)).2
                exact Or.inl ⟨rfl, found, List.mem_cons_of_mem _ hfound, fun name hname =>
                  eq_none_of_unlisted hnamesIff hlistedIff hwithin hname
                    (not_mem_of_filter_eq_nil hgone hname)⟩
            · split at hresult
              · cases hresult
                exact Or.inr ⟨_, rfl⟩
              · cases hresult

end

/-! ## Sweeps among others -/

section

variable [Clock τ] {p : Party ε τ α} {program : Program ε τ α} {start : τ} {c : Namespaces}

omit [Clock τ] in
theorem Party.Lawful.allServed (h : p.Lawful c) {steps : List (Step (Recording τ) τ)}
    (hsteps : steps.map (Step.mapFound Recording.found) = p.steps) :
    AllServed Recording.found steps where
  served := by
    intro found t request reply hmem
    refine h.served _ t request reply ?_
    rw [← hsteps]
    exact List.mem_map.2 ⟨_, hmem, rfl⟩
  ordered := by
    have hordered := h.ordered
    rw [← hsteps, List.filterMap_map] at hordered
    rw [← List.pairwise_map, List.map_filterMap]
    convert hordered using 2
    exact (Step.found?_mapFound Recording.found _).symm

/-- What a party went through is what its program goes through alone, once there
is nothing left of it. -/
theorem Party.Follows.course (h : p.Follows program start) :
    ∃ r : Recording τ, r.IsForward ∧ ∃ steps,
      program.course Recording.answer r start =
        (p.program.course Recording.answer [] p.now).precede steps ∧
      steps.map (Step.mapFound Recording.found) = p.steps := by
  obtain ⟨r, hforward, hr⟩ := h
  obtain ⟨steps, hcourse, hsteps⟩ := hr []
  rw [List.append_nil] at hcourse
  exact ⟨r, hforward, steps, hcourse, hsteps⟩

end

/-- Sweeps at the same time do not make each other fail. Whoever acts when, and
whatever goes meanwhile, a sweep that has ended has asked once for the deletion of
each name that its first listing found, and of no other. It succeeded with these
names, and none of them is there ever after, or it timed out. On an exact clock
it is never left unfinished. -/
theorem concurrent_sweeps [Clock τ] [DecidableEq ι] (sweeps : ι → Sweep τ)
    {w₀ w : World ι PreloadFailure τ (List String)}
    (hstart : ∀ i, ∃ start, w₀.parties i = ⟨(sweeps i).run, start, []⟩) (h : World.Leads w₀ w)
    (i : ι) :
    (∀ result, (w.parties i).program = .done result →
      ∃ found t names rest,
        (w.parties i).steps = .asked found t (.list (sweeps i).selector) (.ok names) :: rest ∧
        names.Nodup ∧ rest.filterMap Step.deletion? = names ∧
        ((result = .ok names ∧
            ∀ w', World.Leads w w' → ∀ name ∈ names, w'.namespaces name = none) ∨
          ∃ remaining, result = .error (.timeout remaining))) ∧
    ∀ seconds : τ → ℚ, Clock.Exact seconds → 0 < seconds (sweeps i).interval →
      (w.parties i).program ≠ .unfinished := by
  choose starts hstarts using hstart
  obtain ⟨hfollows, hlawful⟩ := h.keeps hstarts i
  obtain ⟨r, hforward, steps, hcourse, hsteps⟩ := hfollows.course
  constructor
  · intro result hdone
    rw [hdone, Program.course, Course.precede_mk, List.append_nil] at hcourse
    have hserved : AllServed Recording.found
        ((sweeps i).run.course Recording.answer r (starts i)).steps := by
      rw [hcourse]
      exact hlawful.allServed hsteps
    obtain ⟨names, rest, hrun, honce, hdeleted, hend⟩ :=
      Sweep.run_served hserved (congrArg Course.outcome hcourse)
    rw [hcourse] at hrun hend
    dsimp only at hrun hend
    subst hrun
    refine ⟨_, _, names, _, hsteps.symm, honce, ?_, ?_⟩
    · rw [List.filterMap_map, ← hdeleted]
      exact List.filterMap_congr fun step _ => Step.deletion?_mapFound _ step
    · rcases hend with ⟨hresult, found, hfound, hgone⟩ | htimeout
      · refine Or.inl ⟨hresult, fun w' hlater name hname => ?_⟩
        have hmem : Recording.found found ∈ (w.parties i).steps.filterMap Step.found? := by
          obtain ⟨step, hstep, hstepFound⟩ := List.mem_filterMap.1 hfound
          rw [← hsteps]
          refine List.mem_filterMap.2 ⟨_, List.mem_map.2 ⟨step, hstep, rfl⟩, ?_⟩
          rw [Step.found?_mapFound, hstepFound, Option.map_some]
        exact ((hlawful.within _ hmem).trans hlater.within).eq_none (hgone name hname)
      · exact Or.inr htimeout
  · intro seconds exact hpos hunfinished
    rw [hunfinished, Program.course] at hcourse
    exact (sweeps i).run_ends exact hpos (hforward.forward exact) (starts i)
      (congrArg Course.outcome hcourse)

/-- The value of a program that has ended well. -/
def Program.value? {ε τ α : Type} : Program ε τ α → Option α
  | .done (.ok a) => some a
  | _ => none

theorem Program.eq_of_value? {ε τ α : Type} {p : Program ε τ α} {a : α} (h : p.value? = some a) :
    p = .done (.ok a) := by
  unfold Program.value? at h
  split at h
  · cases h
    rfl
  · cases h

/-- A marked namespace that two sweeps are about to find. -/
def contested : Namespaces :=
  Function.update (fun _ => none) "left" (some ⟨markedLabels [], false⟩)

def race : World Bool PreloadFailure ℚ (List String) :=
  ⟨contested, fun _ => ⟨(⟨some markerSelector, 10, 2⟩ : Sweep ℚ).run, 0, []⟩⟩

theorem contested_listed :
    Serves (.list (some markerSelector)) contested (.ok ["left"]) contested := by
  refine .listed (by decide) fun name => ?_
  rw [List.mem_singleton, contested]
  by_cases h : name = "left"
  · subst h
    simp [finds_marker_iff, markedLabels_get?]
  · simp [h]

theorem vacated_listed (ns : Option Namespace) :
    Serves (.list (some markerSelector))
      (Function.update (Function.update contested "left" ns) "left" none) (.ok [])
      (Function.update (Function.update contested "left" ns) "left" none) := by
  refine .listed .nil fun name => ?_
  by_cases h : name = "left"
  · subst h
    simp
  · simp [contested, h]

/-- Both sweeps find the namespace before either asks for its deletion. It goes
before the second one does. -/
theorem race_leads : ∃ w, World.Leads race w ∧
    ∀ i, (w.parties i).program = .done (.ok ["left"]) := by
  refine ⟨_, .head (.acted false .reads) <| .head (.acted true .reads) <|
    .head (.acted false (.asks none contested_listed (by decide +kernel))) <|
    .head (.acted true (.asks none contested_listed (by decide +kernel))) <|
    .head (.acted false .notes) <|
    .head (.acted false (.asks none (.deleted [] rfl) (by decide +kernel))) <|
    .head (.removed "left") <|
    .head (.acted true .notes) <|
    .head (.acted true (.asks none
      (.gone rfl (show ClusterFailure.isNotFound ⟨.httpStatus, some 404, "gone"⟩ = true from rfl))
      (by decide +kernel))) <|
    .head (.acted true .notes) <|
    .head (.acted true (.asks none (vacated_listed _) (by decide +kernel))) <|
    .single (.acted false (.asks none (vacated_listed _) (by decide +kernel))), fun i => ?_⟩
  cases i with
  | false => exact Program.eq_of_value? (by decide +kernel)
  | true => exact Program.eq_of_value? (by decide +kernel)

theorem concurrent_sweeps_race :
    ∃ w, World.Leads race w ∧ ∀ i, (w.parties i).program = .done (.ok ["left"]) ∧
      (∃ found t rest,
        (w.parties i).steps = .asked found t (.list (some markerSelector)) (.ok ["left"]) :: rest ∧
          rest.filterMap Step.deletion? = ["left"]) ∧
      ∀ w', World.Leads w w' → w'.namespaces "left" = none := by
  obtain ⟨w, hleads, hdone⟩ := race_leads
  refine ⟨w, hleads, fun i => ⟨hdone i, ?_⟩⟩
  obtain ⟨found, t, names, rest, hsteps, -, hdeleted, hend⟩ :=
    (concurrent_sweeps (fun _ => ⟨some markerSelector, 10, 2⟩) (fun _ => ⟨0, rfl⟩) hleads i).1
      _ (hdone i)
  rcases hend with ⟨hresult, hgone⟩ | ⟨remaining, htimeout⟩
  · injection hresult with hnames
    subst hnames
    exact ⟨⟨found, t, rest, hsteps, hdeleted⟩,
      fun w' hlater => hgone w' hlater "left" List.mem_cons_self⟩
  · cases htimeout

end ImagePreload
