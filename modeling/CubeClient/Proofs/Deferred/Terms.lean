import CubeClient.Proofs.Deferred.Replies

/-!
# What programs promise each other

What is proved of a program step by step, under assumptions about the replies that it hears and the
lists that it reads (`Program.Keeps`), is true of every attempt that a run makes. The assumption
about lists is the very conclusion about the collections that are read, so a family keeps what its
programs promise each other (`Kept.run`).

A list that has been built is never replaced. Promises may therefore speak of what other collections
hold in the end, although programs are done with them long before.
-/

namespace CubeClient.Deferred

variable {κ ι : Type} [Named ι]

/-- What may be relied on, the replies that are heard and the lists that are seen; and what the
program of each collection is held to, in what it sends and reads and in what it ends with. -/
structure Terms (κ ι : Type) [Named ι] where
  heard : Reply → Prop
  seen : κ → Listing ι → Prop
  sends : κ → Message → Prop
  reads : κ → κ → Prop
  ends : κ → Except ClientError (NamedList ι) → Prop

/-- What a read of a collection answers on these terms, unless it is refused. -/
inductive Terms.Answers (terms : Terms κ ι) (label : κ → String) (key : κ) : ReadResult ι → Prop
  | list {listing : Listing ι} (hseen : terms.seen key listing)
      (hends : terms.ends key (.ok listing.items)) : Answers terms label key (.ok listing)
  | error {e : ClientError} (hends : terms.ends key (.error e)) :
      Answers terms label key (.error e)
  | refused : Answers terms label key (.error (.reentrantPopulation (label key)))

namespace Program

variable {α β : Type} {terms : Terms κ ι} {label : κ → String} {key : κ} {goal goal' : α → Prop}

/-- Filling a collection, a program sends and reads what it may; and whatever it hears and reads on
these terms, it ends with what is wanted. -/
def Keeps (terms : Terms κ ι) (label : κ → String) (key : κ) (goal : α → Prop) :
    Program κ ι α → Prop
  | .done result => goal result
  | .send message next => terms.sends key message ∧
    ∀ reply, terms.heard reply → (next reply).Keeps terms label key goal
  | .owned _ next => ∀ answer, (next answer).Keeps terms label key goal
  | .read other next => terms.reads key other ∧
    ∀ result, terms.Answers label other result → (next result).Keeps terms label key goal
  | .readAll others next => (∀ other ∈ others, terms.reads key other) ∧
    (∀ listings, List.Forall₂ (fun other listing => terms.Answers label other (.ok listing)) others
      listings → (next (.ok listings)).Keeps terms label key goal) ∧
    ∀ other ∈ others, ∀ e, terms.Answers label other (.error e) →
      (next (.error e)).Keeps terms label key goal

/-- A program that keeps the terms may be followed by any that keep them from where it ends. -/
theorem Keeps.bind {f : α → Program κ ι β} {last : β → Prop}
    (hf : ∀ x, goal x → (f x).Keeps terms label key last) :
    ∀ {program : Program κ ι α}, program.Keeps terms label key goal →
      (program.bind f).Keeps terms label key last := by
  intro program
  induction program with
  | done result => exact hf result
  | send message next ih => exact fun hp => ⟨hp.1, fun reply hreply => ih reply (hp.2 reply hreply)⟩
  | owned other next ih => exact fun hp answer => ih answer (hp answer)
  | read other next ih =>
    exact fun hp => ⟨hp.1, fun result hresult => ih result (hp.2 result hresult)⟩
  | readAll others next ih =>
    rintro ⟨hreads, hlists, herror⟩
    exact ⟨hreads, fun listings hl => ih _ (hlists listings hl), fun other hother e he =>
      ih _ (herror other hother e he)⟩

/-- What such a program reads next is what its collection may read. -/
theorem Keeps.readsNow {program : Program κ ι α} {other : κ}
    (h : program.Keeps terms label key goal) (hreads : program.ReadsNow other) :
    terms.reads key other := by
  cases program with
  | read other' next => exact hreads ▸ h.1
  | readAll others next => exact h.1 other hreads
  | _ => cases hreads

theorem Keeps.mono (h : ∀ x, goal x → goal' x) {program : Program κ ι α}
    (hp : program.Keeps terms label key goal) : program.Keeps terms label key goal' := by
  induction program with
  | done result => exact h result hp
  | send message next ih => exact ⟨hp.1, fun reply hreply => ih reply (hp.2 reply hreply)⟩
  | owned other next ih => exact fun answer => ih answer (hp answer)
  | read other next ih => exact ⟨hp.1, fun result hresult => ih result (hp.2 result hresult)⟩
  | readAll others next ih =>
    obtain ⟨hreads, hlists, herror⟩ := hp
    exact ⟨hreads, fun listings hl => ih _ (hlists listings hl), fun other hother e he =>
      ih _ (herror other hother e he)⟩

end Program

/-! ## Filling a collection from rows -/

section Rows

variable {terms : Terms κ ι} {names : κ → String} {key : κ} {label : String}
  {handler : RowHandler κ ι} {item : ι → Prop} {fault : ClientError → Prop}

/-- An object of a kind, none, or an error of a kind. -/
inductive RowEnd (item : ι → Prop) (fault : ClientError → Prop) :
    Except ClientError (Option ι) → Prop
  | skipped : RowEnd item fault (.ok none)
  | built {x : ι} (h : item x) : RowEnd item fault (.ok (some x))
  | failed {e : ClientError} (h : fault e) : RowEnd item fault (.error e)

/-- A list of objects of a kind, or an error of a kind. -/
inductive ListEnd (item : ι → Prop) (fault : ClientError → Prop) :
    Except ClientError (NamedList ι) → Prop
  | listed {list : NamedList ι} (h : ∀ x ∈ list.toList, item x) : ListEnd item fault (.ok list)
  | failed {e : ClientError} (h : fault e) : ListEnd item fault (.error e)

/-- Rows that keep the terms one by one lead to a list of what they may, or to a fault of theirs. -/
theorem keeps_fillFrom {rows : List Xml.Element} {list : NamedList ι}
    (hrow : ∀ row ∈ rows, ∀ list, (handler row list).Keeps terms names key (RowEnd item fault))
    (hdup : ∀ name, fault (.duplicateName label name)) (hlist : ∀ x ∈ list.toList, item x) :
    (fillFrom label handler rows list).Keeps terms names key (ListEnd item fault) := by
  induction rows generalizing list with
  | nil => exact .listed hlist
  | cons row rows ih =>
    have hrest := fun row' hmem => hrow row' (List.mem_cons_of_mem _ hmem)
    refine Program.Keeps.bind (fun outcome houtcome => ?_) (hrow row List.mem_cons_self list)
    cases houtcome with
    | failed he => exact .failed he
    | skipped => exact ih hrest hlist
    | @built x hx =>
      cases hinsert : list.insert? x with
      | none =>
        simp only [hinsert]
        exact .failed (hdup _)
      | some longer =>
        simp only [hinsert]
        refine ih hrest fun y hy => ?_
        rw [NamedList.toList_of_insert? hinsert] at hy
        rcases List.mem_append.mp hy with hy | hy
        · exact hlist y hy
        · exact List.mem_singleton.mp hy ▸ hx

end Rows

namespace Config

variable {family : Family κ ι} {c d : Config κ ι} {i j a : Nat} {key : κ} {r s : Reader κ ι}
  {terms : Terms κ ι}

/-! ## Replies that have been delivered -/

section Replies

variable [DecidableEq κ]

/-- A reply is there because it was there before or has just been delivered. -/
theorem mem_replies_step {event : Event κ} {q : Nat} {reply : Reply}
    (h : (q, reply) ∈ (c.step family event).replies) :
    (q, reply) ∈ c.replies ∨ event = .deliver q reply := by
  cases event with
  | start key => exact .inl h
  | disown key => exact .inl h
  | advance i =>
    rw [step, replies_advance] at h
    exact .inl h
  | giveUp i =>
    simp only [step, giveUp] at h
    split at h
    · split at h
      · rw [replies_abandon] at h
        exact .inl h
      · exact .inl h
    · exact .inl h
  | deliver request other =>
    simp only [step, deliver] at h
    split at h
    · rcases List.mem_append.mp h with h | h
      · exact .inl h
      · cases List.mem_singleton.mp h
        exact .inr rfl
    · exact .inl h

/-- What has been heard was delivered. -/
theorem deliver_mem_of_reply? {events : List (Event κ)} {q : Nat} {reply : Reply}
    (h : (run family events).reply? q = some reply) : ∃ p, Event.deliver p reply ∈ events := by
  obtain ⟨⟨p, reply'⟩, hentry, rfl⟩ := Option.map_eq_some_iff.mp h
  have hmem := List.mem_of_find?_eq_some hentry
  clear hentry h
  induction events using List.reverseRecOn with
  | nil => cases hmem
  | append_singleton events event ih =>
    rw [run_concat] at hmem
    rcases mem_replies_step hmem with hmem | rfl
    · obtain ⟨p', hp'⟩ := ih hmem
      exact ⟨p', List.mem_append_left _ hp'⟩
    · exact ⟨p, by simp⟩

end Replies

/-! ## The invariant -/

/-- What is left of a reader's program keeps to the terms, and so did what is over. -/
inductive PhaseKeeps (terms : Terms κ ι) (label : κ → String) (c : Config κ ι) (key : κ) :
    Phase κ ι → Prop
  | entering : PhaseKeeps terms label c key .entering
  | waiting {a : Nat} : PhaseKeeps terms label c key (.waiting a)
  | working {a : Nat} {program : Population κ ι}
      (h : program.Keeps terms label key (terms.ends key)) :
      PhaseKeeps terms label c key (.working a program)
  | awaitingReply {a q : Nat} {next : Reply → Population κ ι}
      (h : ∀ reply, terms.heard reply → (next reply).Keeps terms label key (terms.ends key)) :
      PhaseKeeps terms label c key (.awaitingReply a q next)
  | awaitingRead {a j : Nat} {next : ReadResult ι → Population κ ι} {s : Reader κ ι}
      (hs : c.readers[j]? = some s)
      (h : ∀ result, terms.Answers label s.key result →
        (next result).Keeps terms label key (terms.ends key)) :
      PhaseKeeps terms label c key (.awaitingRead a j next)
  | awaitingReads {a : Nat} {children : List Nat} {keys : List κ}
      {next : Except ClientError (List (Listing ι)) → Population κ ι}
      (hs : List.Forall₂ (fun j key => ∃ s, c.readers[j]? = some s ∧ s.key = key) children keys)
      (h : (Program.readAll keys next).Keeps terms label key (terms.ends key)) :
      PhaseKeeps terms label c key (.awaitingReads a children next)
  | listed {own : Option Nat} {listing : Listing ι} :
      PhaseKeeps terms label c key (.finished own (.ok listing))
  | failed {a : Nat} {e : ClientError} (h : terms.ends key (.error e)) :
      PhaseKeeps terms label c key (.finished (some a) (.error e))
  | refused :
      PhaseKeeps terms label c key (.finished none (.error (.reentrantPopulation (label key))))
  | abandoned {own : Option Nat} : PhaseKeeps terms label c key (.abandoned own)

/-- All attempts keep to the terms. -/
structure Kept (terms : Terms κ ι) (label : κ → String) (c : Config κ ι) : Prop where
  reader : ∀ {i : Nat} {r : Reader κ ι}, c.readers[i]? = some r →
    PhaseKeeps terms label c r.key r.phase
  inside : ∀ {i : Nat} {r : Reader κ ι}, c.readers[i]? = some r →
    (r.key :: r.within).IsChain fun key outer => terms.reads outer key
  sent : ∀ {s : Sent} {key : κ}, s ∈ c.sent → c.attempts[s.attempt]? = some key →
    terms.sends key s.message
  cell : ∀ {key : κ} {listing : Listing ι}, (c.cells key).state = .populated listing →
    terms.ends key (.ok listing.items)

namespace Kept

variable {label : κ → String}

/-- What is closed under reading holds of whatever is read on behalf of a collection. -/
theorem of_within {P : κ → Prop} (h : Kept terms label c)
    (hclosed : ∀ key other, terms.reads key other → P key → P other) {outer : κ}
    (hr : c.readers[i]? = some r) (houter : outer ∈ r.within) (hP : P outer) : P r.key := by
  have hchain := h.inside hr
  revert houter hchain
  generalize r.key = key
  induction r.within generalizing key with
  | nil => exact fun houter => (List.not_mem_nil houter).elim
  | cons next within ih =>
    intro houter hchain
    obtain ⟨hreads, hchain⟩ := List.isChain_cons_cons.mp hchain
    refine hclosed next key hreads ?_
    rcases List.mem_cons.mp houter with rfl | houter
    · exact hP
    · exact ih next houter hchain

/-- Where collections read lower ones only, nobody comes back to where it came from. -/
theorem key_notMem_within {rank : κ → Nat} (h : Kept terms label c)
    (hrank : ∀ key other, terms.reads key other → rank other < rank key)
    (hr : c.readers[i]? = some r) : r.key ∉ r.within := by
  intro hwithin
  have hchain : (r.key :: r.within).IsChain fun key outer => rank key < rank outer :=
    (h.inside hr).imp fun key outer => hrank outer key
  have htrans : IsTrans κ fun key outer => rank key < rank outer :=
    ⟨fun _ _ _ => Nat.lt_trans⟩
  exact Nat.lt_irrefl _ (List.rel_of_pairwise_cons (List.isChain_iff_pairwise.mp hchain) hwithin)

theorem initial : Kept terms label (Config.initial : Config κ ι) where
  reader h := by cases h
  inside h := by cases h
  sent h := by cases h
  cell h := by cases h

end Kept

theorem PhaseKeeps.mono {label : κ → String} {phase : Phase κ ι}
    (h : PhaseKeeps terms label c key phase)
    (hkept : ∀ {j : Nat} {s : Reader κ ι}, c.readers[j]? = some s →
      ∃ s', d.readers[j]? = some s' ∧ s'.key = s.key) :
    PhaseKeeps terms label d key phase := by
  cases h with
  | entering => exact .entering
  | waiting => exact .waiting
  | working h => exact .working h
  | awaitingReply h => exact .awaitingReply h
  | awaitingRead hs h =>
    obtain ⟨s', hs', hkey⟩ := hkept hs
    exact .awaitingRead hs' (hkey.symm ▸ h)
  | awaitingReads hs h =>
    refine .awaitingReads (hs.imp fun j key hj => ?_) h
    obtain ⟨s, hs, hkey⟩ := hj
    obtain ⟨s', hs', hkey'⟩ := hkept hs
    exact ⟨s', hs', hkey'.trans hkey⟩
  | listed => exact .listed
  | failed h => exact .failed h
  | refused => exact .refused
  | abandoned => exact .abandoned

/-- What a reader has answered is as the terms have it. -/
theorem Kept.answers {label : κ → String} (h : Kept terms label c) (hanswered : Answered c)
    (hseen : ∀ {key : κ} {listing : Listing ι}, (c.cells key).state = .populated listing →
      terms.seen key listing)
    (hr : c.readers[i]? = some r) {result : ReadResult ι} (hresult : c.result? i = some result) :
    terms.Answers label r.key result := by
  rw [result?, hr, Option.bind_some] at hresult
  have hphase := h.reader hr
  cases hp : r.phase with
  | finished own answer =>
    rw [hp] at hresult hphase
    obtain rfl := Option.some.inj hresult
    cases hphase with
    | listed =>
      have hstate := (hanswered.listed hr hp).1
      exact .list (hseen hstate) (h.cell hstate)
    | failed he => exact .error he
    | refused => exact .refused
  | _ => rw [hp] at hresult; cases hresult

/-! ## Reads side by side -/

/-- The error of reads side by side is that of one of them. -/
theorem exists_of_joined?_error {children : List Nat} {e : ClientError}
    (h : c.joined? children = some (.error e)) :
    ∃ j ∈ children, c.result? j = some (.error e) := by
  unfold joined? at h
  split at h
  · rename_i hfirst
    cases h
    obtain ⟨j, hj, herror⟩ := List.exists_of_findSome?_eq_some hfirst
    refine ⟨j, hj, ?_⟩
    split at herror
    · rename_i hresult
      cases herror
      exact hresult
    · cases herror
  · obtain ⟨answers, -, heq⟩ := Option.map_eq_some_iff.mp h
    cases heq

/-- The readers that are started together, for the collections that are read side by side. -/
theorem forall₂_childReaders {keys : List κ} {n : Nat}
    (hnew : ∀ m s, (childReaders i r keys)[m]? = some s → d.readers[n + m]? = some s) :
    List.Forall₂ (fun j key =>
        d.readers[j]? = some ⟨key, i :: r.ancestors, r.key :: r.within, .entering⟩)
      ((List.range keys.length).map (n + ·)) keys := by
  rw [List.forall₂_iff_get]
  refine ⟨by simp, fun m hm hm' => ?_⟩
  rw [List.get_eq_getElem, List.getElem_map, List.getElem_range]
  exact hnew m _ (getElem?_childReaders_of_lt hm' i r)

theorem forall₂_of_forall₂ {α β γ : Type} {R : α → β → Prop} {S : α → γ → Prop}
    {T : β → γ → Prop} (h : ∀ x y z, R x y → S x z → T y z) :
    ∀ {xs : List α} {ys : List β} {zs : List γ}, List.Forall₂ R xs ys → List.Forall₂ S xs zs →
      List.Forall₂ T ys zs
  | _, _, _, .nil, .nil => .nil
  | _, _, _, .cons hr hrs, .cons hs hss => .cons (h _ _ _ hr hs) (forall₂_of_forall₂ h hrs hss)

/-! ## Along a run -/

namespace Kept

/-- A turn keeps to the terms. -/
theorem turn {phase : Phase κ ι} (h : Kept terms family.label c) (hanswered : Answered c)
    (hprogram : ∀ key, (family.program key).Keeps terms family.label key (terms.ends key))
    (hheard : ∀ {q : Nat} {reply : Reply}, c.reply? q = some reply → terms.heard reply)
    (hseen : ∀ {key : κ} {listing : Listing ι}, (c.cells key).state = .populated listing →
      terms.seen key listing)
    (hr : c.readers[i]? = some r) (ht : Turn family c d i r phase) :
    PhaseKeeps terms family.label d r.key phase := by
  have hphase := h.reader hr
  cases ht with
  | @shift _ new _ hshift hnew =>
    cases hshift with
    | hit => exact .listed
    | refuse => exact .refused
    | wait => exact .waiting
    | wake => exact .entering
    | send hp =>
      rw [hp] at hphase
      cases hphase with
      | working hkeeps => exact .awaitingReply hkeeps.2
    | owned hp =>
      rw [hp] at hphase
      cases hphase with
      | working hkeeps => exact .working (hkeeps _)
    | read hp =>
      rw [hp] at hphase
      cases hphase with
      | working hkeeps => exact .awaitingRead (hnew 0 _ rfl) hkeeps.2
    | @readAll _ keys _ hp =>
      rw [hp] at hphase
      cases hphase with
      | working hkeeps =>
        exact .awaitingReads ((forall₂_childReaders hnew).imp fun _ _ hs => ⟨_, hs, rfl⟩) hkeeps
    | reply hp hreply =>
      rw [hp] at hphase
      cases hphase with
      | awaitingReply hkeeps => exact .working (hkeeps _ (hheard hreply))
    | result hp hresult =>
      rw [hp] at hphase
      cases hphase with
      | awaitingRead hs hkeeps =>
        exact .working (hkeeps _ (h.answers hanswered hseen hs hresult))
    | joined hp hjoined =>
      rw [hp] at hphase
      cases hphase with
      | awaitingReads hs hkeeps =>
        refine .working (hkeeps.2.1 _ (forall₂_of_forall₂ ?_ hs (forall₂_of_joined? hjoined)))
        rintro j key listing ⟨s, hs, rfl⟩ hresult
        exact h.answers hanswered hseen hs hresult
  | fill => exact .working (hprogram r.key)
  | @finish a result hp =>
    rw [hp] at hphase
    cases hphase with
    | working hends =>
      cases result with
      | ok items => exact .listed
      | error e => exact .failed hends
  | fail hp _ hjoined =>
    rw [hp] at hphase
    cases hphase with
    | awaitingReads hs hkeeps =>
      obtain ⟨j, hj, hresult⟩ := exists_of_joined?_error hjoined
      obtain ⟨key, hkey, s, hs, rfl⟩ := exists_of_forall₂ hs hj
      exact .working (hkeeps.2.2 s.key hkey _ (h.answers hanswered hseen hs hresult))
  | drop => exact .abandoned

variable [DecidableEq κ]

/-- A step keeps the terms as long as what arrives is on them. -/
theorem transition (h : Kept terms family.label c) (hc : Coherent c) (hanswered : Answered c)
    (hprogram : ∀ key, (family.program key).Keeps terms family.label key (terms.ends key))
    (hheard : ∀ {q : Nat} {reply : Reply}, c.reply? q = some reply → terms.heard reply)
    (hseen : ∀ {key : κ} {listing : Listing ι}, (c.cells key).state = .populated listing →
      terms.seen key listing)
    (ht : Transition family c d) : Kept terms family.label d where
  reader {i s} hs := by
    rcases ht.before hs with ⟨r, hr, hsame, hphase | hturn⟩ | ⟨-, hborn⟩
    · rw [hphase, hsame.key]
      refine (h.reader hr).mono fun hs => ?_
      obtain ⟨phase, hd, -⟩ := ht.reader hs
      exact ⟨_, hd, rfl⟩
    · rw [hsame.key]
      exact h.turn hanswered hprogram hheard hseen hr hturn
    · rw [hborn.entering]
      exact .entering
  inside {i s} hs := by
    rcases ht.before hs with ⟨r, hr, hsame, -⟩ | ⟨-, hborn⟩
    · rw [hsame.key, hsame.within]
      exact h.inside hr
    · cases hborn with
      | outside _ _ hwithin =>
        rw [hwithin]
        exact .singleton s.key
      | inside _ hr hp hreads _ hwithin =>
        have hphase := h.reader hr
        rw [hp] at hphase
        rw [hwithin]
        cases hphase with
        | working hkeeps => exact .cons_cons (hkeeps.readsNow hreads) (h.inside hr)
  sent {s key} hs ha := by
    have hlogged : s ∈ c.sent → terms.sends key s.message := by
      intro hs
      refine h.sent hs ?_
      rw [List.getElem?_eq_getElem (hc.sent hs)]
      rw [ht.attempt (List.getElem?_eq_getElem (hc.sent hs))] at ha
      exact ha
    rcases ht.sent with heq | ⟨i, r, a, message, next, hr, hp, -, heq⟩
    · exact hlogged (heq ▸ hs)
    · rw [heq] at hs
      rcases List.mem_append.mp hs with hs | hs
      · exact hlogged hs
      · obtain rfl := List.mem_singleton.mp hs
        have hattempt := hc.attempt_of_populates ⟨r, hr, rfl, by rw [hp]; rfl⟩
        obtain rfl := Option.some.inj ((ht.attempt hattempt).symm.trans ha)
        have hphase := h.reader hr
        rw [hp] at hphase
        cases hphase with
        | working hkeeps => exact hkeeps.1
  cell {key listing} hs := by
    cases ht.change key with
    | same hcell => exact h.cell (hcell ▸ hs)
    | emptied hempty => rw [hempty] at hs; cases hs
    | begun _ hbegun => rw [hbegun] at hs; cases hs
    | filled hr hkey hp hfilled =>
      obtain rfl := CellState.populated.inj (hfilled.symm.trans hs)
      have hphase := h.reader hr
      rw [hp, hkey] at hphase
      cases hphase with
      | working hends => exact hends

end Kept

section Runs

variable [DecidableEq κ]

/-- A run goes on from where its beginning has led. -/
theorem run_append (family : Family κ ι) (events later : List (Event κ)) :
    Config.run family (events ++ later) = later.foldl (step family) (Config.run family events) := by
  rw [Config.run, Config.run, List.foldl_append]

theorem state_foldl {listing : Listing ι} (h : Coherent c)
    (hs : (c.cells key).state = .populated listing) (later : List (Event κ)) :
    ((later.foldl (step family) c).cells key).state = .populated listing :=
  (h.settled hs later).state

/-- Programs that keep to the terms, as long as the others do, make all attempts of a run keep to
them. What they see is what the collections hold after the run. -/
theorem Kept.run {events : List (Event κ)}
    (hprogram : ∀ key, (family.program key).Keeps terms family.label key (terms.ends key))
    (hheard : ∀ q reply, Event.deliver q reply ∈ events → terms.heard reply)
    (hseen : ∀ key listing, ((Config.run family events).cells key).state = .populated listing →
      terms.seen key listing) : Kept terms family.label (Config.run family events) := by
  suffices hprefix : ∀ before after, events = before ++ after →
      Kept terms family.label (Config.run family before) from
    hprefix events [] (List.append_nil events).symm
  intro before
  induction before using List.reverseRecOn with
  | nil => exact fun _ _ => .initial
  | append_singleton before event ih =>
    intro after heq
    rw [run_concat]
    have hc := Coherent.run family before
    have hrest : events = before ++ event :: after := by rw [heq]; simp
    refine (ih _ hrest).transition hc (Answered.run family before) hprogram ?_ ?_
      (.of_step family _ event)
    · intro q reply hreply
      obtain ⟨p, hp⟩ := deliver_mem_of_reply? hreply
      exact hheard p reply (hrest ▸ List.mem_append_left _ hp)
    · intro key listing hs
      refine hseen key listing ?_
      rw [hrest, run_append]
      exact state_foldl hc hs _

end Runs

end Config

end CubeClient.Deferred
