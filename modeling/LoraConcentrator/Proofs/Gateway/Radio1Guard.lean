import LoraConcentrator.Gateway.Run
import LoraConcentrator.Proofs.Gateway.UsableRadios

/-!
# The guard of radio 1

Where radio 1 goes first, its channel must be enabled for any other radio to be configured. The
guard is met with the first enabled channel in the order of the radios, before its request is
written, so no radio is configured while channel 1 is disabled (`sends_bringUp_of_radio1_disabled`).

It is only met with channels that the order visits. On a device with one radio these are none but
channel 1, on one with two radios channels 1 and 2, so there a session opens without any radio
although channel 0 is enabled and the device has a radio for it (`startAttached_radio1Guard`).
-/

namespace LoraConcentrator

open Program DialogueM

namespace DialogueM

variable {channels : RxChannels}

/-- While channel 1 is disabled, a row of radios with an enabled channel is refused at the first of
them. -/
theorem configureRadios_of_radio1_disabled (hdisabled : ¬ channels[1].enabled)
    (radios : List (Fin rxChannelCount)) (d : Dialogue) :
    configureRadios true channels radios d =
      if enabledRadios channels radios = [] then .ok () d
      else .error .radio1Disabled { d with link := d.link.note .radio1Disabled } := by
  induction radios with
  | nil => rfl
  | cons radio radios ih =>
    unfold configureRadios
    by_cases henabled : channels[radio].enabled
    · rw [enabledRadios_cons_of_enabled henabled, if_neg (List.cons_ne_nil _ _)]
      refine bind_of_error ?_
      unfold configureRadio
      rw [if_pos henabled, if_pos ⟨rfl, hdisabled⟩]
      rfl
    · rw [enabledRadios_cons_of_disabled henabled, configureRadio_of_disabled henabled, ← ih]
      rfl

/-- Where radio 1 goes first and is disabled no radio is configured. -/
theorem sends_configureRadios_of_radio1_disabled (hdisabled : ¬ channels[1].enabled)
    (radios : List (Fin rxChannelCount)) : Sends [] (configureRadios true channels radios) where
  of_ok h := by
    rw [configureRadios_of_radio1_disabled hdisabled] at h
    split at h
    · cases h
      exact sent_nil rfl (.refl _)
    · cases h
  of_error h := by
    rw [configureRadios_of_radio1_disabled hdisabled] at h
    split at h
    · cases h
    · cases h
      exact sentPart_nil [] ((Link.Moved.refl _).note .radio1Disabled)

/-- While channel 1 is disabled, bringing the board up writes no request but those that meet the
device. -/
theorem sends_bringUp_of_radio1_disabled {radio1First : Bool} (hfirst : radio1First)
    (hdisabled : ¬ channels[1].enabled) : Sends meetRequests (bringUp radio1First channels) := by
  subst hfirst
  exact sends_meet.then_silent fun _ ↦ sends_configureRadios_of_radio1_disabled hdisabled _

/-- While channel 1 is disabled, the order that starts with radio 1 finds an enabled channel when it
gets to channel 2 or as far as channel 0. -/
theorem enabledRadios_radioOrder_ne_nil_iff (hdisabled : ¬ channels[1].enabled) {count : Nat} :
    enabledRadios channels (radioOrder true count) ≠ [] ↔
      (2 < count ∧ channels[0].enabled) ∨ (1 < count ∧ channels[2].enabled) := by
  constructor
  · intro h
    obtain ⟨radio, hmem⟩ := List.exists_mem_of_ne_nil _ h
    obtain ⟨horder, henabled⟩ := mem_enabledRadios.1 hmem
    have hlt := mem_radioOrder_true.1 horder
    match radio with
    | 0 => exact .inl ⟨hlt, henabled⟩
    | 1 => exact absurd henabled hdisabled
    | 2 => exact .inr ⟨hlt, henabled⟩
  · rintro (⟨hlt, henabled⟩ | ⟨hlt, henabled⟩)
    · have horder : 0 ∈ radioOrder true count := mem_radioOrder_true.2 hlt
      exact List.ne_nil_of_mem (mem_enabledRadios.2 ⟨horder, henabled⟩)
    · have horder : 2 ∈ radioOrder true count := mem_radioOrder_true.2 hlt
      exact List.ne_nil_of_mem (mem_enabledRadios.2 ⟨horder, henabled⟩)

/-- After a device was met, a board whose channel 1 is disabled comes up exactly when the order that
starts with radio 1 finds no enabled channel. -/
theorem bringUp_of_radio1_disabled {radio1First : Bool} (hfirst : radio1First)
    (hdisabled : ¬ channels[1].enabled) {d d' : Dialogue} {identity : Identity}
    (hmeet : meet d = .ok identity d') :
    bringUp radio1First channels d =
      if (2 < identity.rxRadios.toNat ∧ channels[0].enabled) ∨
          (1 < identity.rxRadios.toNat ∧ channels[2].enabled) then
        .error .radio1Disabled { d' with link := d'.link.note .radio1Disabled }
      else .ok () d' := by
  subst hfirst
  rw [bringUp, bind_of_ok hmeet, configureRadios_of_radio1_disabled hdisabled]
  by_cases hnil : enabledRadios channels (radioOrder true identity.rxRadios.toNat) = []
  · rw [if_pos hnil, if_neg]
    rwa [← enabledRadios_radioOrder_ne_nil_iff hdisabled, not_not]
  · rw [if_neg hnil, if_pos]
    rwa [← enabledRadios_radioOrder_ne_nil_iff hdisabled]

end DialogueM

namespace Gateway

variable {g : Gateway}

/-- Whether a gateway is stopped and its device answers every request that meets it in good
order. -/
def Accepts (g : Gateway) : Prop :=
  ¬ g.isStarted ∧ ∃ identity d, meet ⟨g.newController, g.link⟩ = .ok identity d

instance : Decidable g.Accepts :=
  match hmeet : meet ⟨g.newController, g.link⟩ with
  | .ok identity d => decidable_of_iff (¬ g.isStarted)
      ⟨fun h ↦ ⟨h, identity, d, hmeet⟩, fun h ↦ h.1⟩
  | .error e d => .isFalse (by
      rintro ⟨-, identity, d', h⟩
      rw [hmeet] at h
      cases h)

theorem sent_close (link : Link) : link.close.sent = link.sent := by
  unfold Link.close
  split <;> rfl

/-- A gateway that is started does not start again. -/
theorem step_startAttached_of_isStarted (h : g.isStarted) :
    step .startAttached g =
      (.error .alreadyStarted, { g with link := g.link.note .sessionRunning }) := by
  rw [step, Operation.run, Operation.completing,
    bind_of_error (GatewayM.startAttached_of_isStarted h)]

/-- A board that comes up opens a session with what was learned of it. -/
theorem step_startAttached_of_ok (h : ¬ g.isStarted) {d : Dialogue}
    (hbring : bringUp g.board.radio1First g.rxChannels ⟨g.newController, g.link⟩ = .ok () d) :
    step .startAttached g = (.ok .done,
      { g with session := some d.controller, link := d.link.note .sessionStarted }) := by
  have hstart := GatewayM.startAttached_of_stopped h
  rw [hbring] at hstart
  rw [step, Operation.run, Operation.completing, bind_of_ok hstart]
  rfl

/-- A board that does not come up leaves the gateway stopped, with its link closed. -/
theorem step_startAttached_of_error (h : ¬ g.isStarted) {d : Dialogue} {e : Error}
    (hbring : bringUp g.board.radio1First g.rxChannels ⟨g.newController, g.link⟩ = .error e d) :
    step .startAttached g = (.error e, { g with link := d.link.close }) := by
  have hstart := GatewayM.startAttached_of_stopped h
  rw [hbring] at hstart
  rw [step, Operation.run, Operation.completing, bind_of_error hstart]

/-- Whatever comes of it, a start has sent the requests of bringing the board up to some byte. -/
theorem sent_startAttached {requests : List Request}
    (h : Sends requests (bringUp g.board.radio1First g.rxChannels))
    (hwritable : ∀ r ∈ requests, r.isWritable) :
    ∃ bytes sent, Request.stream (IdSource.initial.number requests) = .ok bytes ∧
      sent <+: bytes ∧ (step .startAttached g).2.link.sent = g.link.sent ++ sent := by
  by_cases hstarted : g.isStarted
  · obtain ⟨bytes, hbytes⟩ : ∃ bytes,
        Request.stream (IdSource.initial.number requests) = .ok bytes :=
      Request.exists_stream fun p hp ↦ hwritable _ (IdSource.snd_mem_of_mem_number hp)
    rw [step_startAttached_of_isStarted hstarted]
    exact ⟨bytes, [], hbytes, List.nil_prefix, (List.append_nil _).symm⟩
  rcases hbring : bringUp g.board.radio1First g.rxChannels ⟨g.newController, g.link⟩ with
    ⟨_, d⟩ | ⟨e, d⟩
  · obtain ⟨bytes, taken, hbytes, hm⟩ := (h.of_ok hbring).moved
    rw [step_startAttached_of_ok hstarted hbring]
    exact ⟨bytes, bytes, hbytes, List.prefix_rfl, hm.sent_eq⟩
  · obtain ⟨bytes, sent, taken, hbytes, hsent, hm⟩ :=
      (h.of_error hbring).exists_stream hwritable
    rw [step_startAttached_of_error hstarted hbring]
    exact ⟨bytes, sent, hbytes, hsent, (sent_close _).trans hm.sent_eq⟩

/-- With a channel to use, the guard is met on three radios, and on two with channel 2 enabled. -/
theorem guarded_iff {channels : RxChannels} {count : Nat} {radio : Fin rxChannelCount}
    (hdisabled : ¬ channels[1].enabled) (husable : Usable channels count radio) :
    (2 < count ∧ channels[0].enabled) ∨ (1 < count ∧ channels[2].enabled) ↔
      3 ≤ count ∨ count = 2 ∧ channels[2].enabled := by
  obtain ⟨henabled, hlt⟩ := husable
  constructor
  · rintro (⟨hlt, -⟩ | ⟨hlt, henabled⟩)
    · exact .inl hlt
    · rcases Nat.lt_or_ge 2 count with hcount | hcount
      · exact .inl hcount
      · exact .inr ⟨Nat.le_antisymm hcount hlt, henabled⟩
  · rintro (hcount | ⟨rfl, henabled⟩)
    · match radio with
      | 0 => exact .inl ⟨hcount, henabled⟩
      | 1 => exact absurd henabled hdisabled
      | 2 => exact .inr ⟨Nat.lt_of_succ_lt hcount, henabled⟩
    · exact .inr ⟨Nat.lt_succ_self 1, henabled⟩

/-- **Guard of radio 1**: while channel 1 is disabled, a gateway on which radio 1 goes first writes
no request that configures a radio. If it has another channel to use, a start whose device accepts
everything up to the status is refused, and the gateway stays stopped, when the device has three
radios or when it has two and channel 2 is enabled; and only then: otherwise the gateway starts. -/
theorem startAttached_radio1Guard {identity : Identity} {radio : Fin rxChannelCount}
    (hfirst : g.board.radio1First) (hdisabled : ¬ g.rxChannels[1].enabled)
    (hreports : g.link.Reports identity)
    (husable : Usable g.rxChannels identity.rxRadios.toNat radio) :
    (∃ bytes sent, Request.stream (IdSource.initial.number meetRequests) = .ok bytes ∧
      sent <+: bytes ∧ (step .startAttached g).2.link.sent = g.link.sent ++ sent) ∧
    ((step .startAttached g).1 = .ok .done ↔ g.Accepts ∧
      ¬ (3 ≤ identity.rxRadios.toNat ∨
        identity.rxRadios.toNat = 2 ∧ g.rxChannels[2].enabled)) ∧
    (g.Accepts →
      3 ≤ identity.rxRadios.toNat ∨ identity.rxRadios.toNat = 2 ∧ g.rxChannels[2].enabled →
        (step .startAttached g).1 = .error .radio1Disabled ∧
          ¬ (step .startAttached g).2.isStarted) := by
  refine ⟨sent_startAttached (sends_bringUp_of_radio1_disabled hfirst hdisabled) (by decide), ?_⟩
  by_cases hstarted : g.isStarted
  · rw [step_startAttached_of_isStarted hstarted]
    refine ⟨?_, fun haccepts ↦ absurd hstarted haccepts.1⟩
    constructor
    · intro h
      cases h
    · rintro ⟨haccepts, -⟩
      exact absurd hstarted haccepts.1
  rcases hmeet : meet ⟨g.newController, g.link⟩ with ⟨identity', d⟩ | ⟨e, d⟩
  -- the identity that was met is the one that the link reports
  · obtain rfl := hreports.unique (meet_ok hmeet).1
    have hbring := bringUp_of_radio1_disabled hfirst hdisabled hmeet
    simp only [guarded_iff hdisabled husable] at hbring
    by_cases hguarded : 3 ≤ identity'.rxRadios.toNat ∨
        identity'.rxRadios.toNat = 2 ∧ g.rxChannels[2].enabled
    · rw [if_pos hguarded] at hbring
      rw [step_startAttached_of_error hstarted hbring]
      refine ⟨?_, fun _ _ ↦ ⟨rfl, hstarted⟩⟩
      constructor
      · intro h
        cases h
      · rintro ⟨-, hnot⟩
        exact absurd hguarded hnot
    · rw [if_neg hguarded] at hbring
      rw [step_startAttached_of_ok hstarted hbring]
      refine ⟨?_, fun _ h ↦ absurd h hguarded⟩
      constructor
      · exact fun _ ↦ ⟨⟨hstarted, identity', d, hmeet⟩, hguarded⟩
      · exact fun _ ↦ rfl
  · have hbring : bringUp g.board.radio1First g.rxChannels ⟨g.newController, g.link⟩ =
        .error e d := bind_of_error hmeet
    have haccepts : ¬ g.Accepts := by
      rintro ⟨-, identity', d', h⟩
      rw [hmeet] at h
      cases h
    rw [step_startAttached_of_error hstarted hbring]
    refine ⟨?_, fun h ↦ absurd h haccepts⟩
    constructor
    · intro h
      cases h
    · rintro ⟨h, -⟩
      exact absurd h haccepts

/-- A board with three radios refuses channel 0 alone. -/
theorem startAttached_radio1Guard_sample :
    (∃ bytes sent, Request.stream (IdSource.initial.number meetRequests) = .ok bytes ∧
      sent <+: bytes ∧ (step .startAttached (.sample true 3 [0])).2.link.sent = sent) ∧
    (step .startAttached (.sample true 3 [0])).1 = .error .radio1Disabled ∧
      ¬ (step .startAttached (.sample true 3 [0])).2.isStarted := by
  have husable : Usable (sample true 3 [0]).rxChannels (sampleIdentity 3).rxRadios.toNat 0 := by
    decide
  obtain ⟨hsent, -, hrefused⟩ :=
    startAttached_radio1Guard (by decide) (by decide) (reports_sample true 3 [0]) husable
  exact ⟨hsent, hrefused (by decide +kernel) (.inl (by decide))⟩

/-- A board with one radio starts with channel 0 alone, and configures nothing. -/
theorem startAttached_sample_unguarded :
    ¬ ∀ (g : Gateway) (identity : Identity) (radio : Fin rxChannelCount),
      g.board.radio1First → ¬ g.rxChannels[1].enabled → g.link.Reports identity →
        Usable g.rxChannels identity.rxRadios.toNat radio →
          (step .startAttached g).1 ≠ .ok .done := by
  intro h
  refine h (.sample true 1 [0]) (sampleIdentity 1) 0 (by decide) (by decide)
    (reports_sample true 1 [0]) (by decide) ?_
  decide +kernel

end Gateway

end LoraConcentrator
