import LoraConcentrator.Proofs.Gateway.LifeCycle
import LoraConcentrator.Proofs.Gateway.Lockstep
import LoraConcentrator.Proofs.Gateway.Settings
import LoraConcentrator.Proofs.Settings.Rereading

/-!
# Applying settings that were read

The reader of settings counts the channels against the radios of a board, and so does a gateway that
takes them over. Both count to the same number, so settings that were read can always be applied.

What a gateway takes over is `Gateway.taking`; settings that are applied one after the other fold it
(`Gateway.run_applySettings`). In the place of a channel that is not listed the one before stays, so
the second application of the same settings finds everything in its place (`Gateway.taking_taking`).

Main statement: `Gateway.applies_read_settings`.
-/

namespace LoraConcentrator

open Link Program

namespace RxChannels

/-- Channels are the same if they are for every radio. -/
theorem ext_radio {channels channels' : RxChannels}
    (h : ∀ radio : Fin rxChannelCount, channels[radio] = channels'[radio]) :
    channels = channels' :=
  Vector.ext fun i hi ↦ h ⟨i, hi⟩

/-- What is listed twice is put in once. -/
theorem overlaid_overlaid (channels : RxChannels) (listed : List RxChannel) :
    RxChannels.overlaid (channels.overlaid 0 listed) 0 listed = channels.overlaid 0 listed := by
  refine ext_radio fun radio ↦ ?_
  rw [getElem_overlaid_zero, getElem_overlaid_zero]
  rw [List.getD_eq_getElem?_getD, List.getD_eq_getElem?_getD]
  cases listed[radio.val]? <;> rfl

end RxChannels

namespace Gateway

/-! ### One application -/

/-- The gateway with the settings in the place of its own. -/
def taking (g : Gateway) (settings : Settings) : Gateway :=
  { g with
    board := settings.board
    rxChannels := g.rxChannels.overlaid 0 settings.rxChannels
    txChannel := settings.tx }

/-- A stopped gateway with the board, the transmit channel and the listed receive channels of the
settings. The receive channels that are not listed are given. -/
structure IsSetTo (g : Gateway) (settings : Settings) (unlisted : Fin rxChannelCount → RxChannel) :
    Prop where
  stopped : ¬ g.isStarted
  board : g.board = settings.board
  txChannel : g.txChannel = settings.tx
  rxChannel (radio : Fin rxChannelCount) :
    g.rxChannels[radio] = settings.rxChannels.getD radio (unlisted radio)

variable {g g' : Gateway} {settings : Settings}

/-- A stopped gateway that takes settings is set to them, and keeps the channels not listed. -/
theorem isSetTo_taking (h : ¬ g.isStarted) (settings : Settings) :
    (g.taking settings).IsSetTo settings (g.rxChannels[·]) where
  stopped := h
  board := rfl
  txChannel := rfl
  rxChannel radio := g.rxChannels.getElem_overlaid_zero settings.rxChannels radio

/-- Settings that are in place already are taken over without a change. -/
theorem taking_taking (g : Gateway) (settings : Settings) :
    (g.taking settings).taking settings = g.taking settings := by
  rw [taking, taking, RxChannels.overlaid_overlaid]

/-- Gateways that differ in what they remember only. -/
abbrev Alike : Gateway → Gateway → Prop := Over SameButNotices

/-- Gateways that are alike take settings alike. -/
theorem Alike.taking (h : Alike g g') (settings : Settings) :
    Alike (g.taking settings) (g'.taking settings) := by
  obtain ⟨link, hlink, rfl⟩ := h
  exact ⟨link, hlink, rfl⟩

/-- What a gateway is set to does not depend on its link. -/
theorem IsSetTo.withLink {unlisted : Fin rxChannelCount → RxChannel}
    (h : g.IsSetTo settings unlisted) (link : Link) :
    ({ g with link := link } : Gateway).IsSetTo settings unlisted :=
  ⟨h.stopped, h.board, h.txChannel, h.rxChannel⟩

/-- A gateway like one that is set to settings is set to them. -/
theorem Alike.isSetTo {unlisted : Fin rxChannelCount → RxChannel}
    (h : Alike g g') (hset : g.IsSetTo settings unlisted) : g'.IsSetTo settings unlisted := by
  obtain ⟨link, -, rfl⟩ := h
  exact hset.withLink link

/-- Settings with no more channels than there are radios are taken over, and only notices are added
besides. -/
theorem step_applySettings (h : ¬ g.isStarted)
    (hlength : settings.rxChannels.length ≤ rxChannelCount) :
    ∃ g', step (.applySettings settings) g = (.ok .done, g') ∧ Alike (g.taking settings) g' := by
  obtain ⟨link, hlink, happly⟩ := GatewayM.applySettings_of_stopped h settings
  rw [if_pos hlength] at happly
  exact ⟨_, step_of_ok (bind_of_ok happly), link, hlink, rfl⟩

/-! ### Many applications -/

/-- Gateways that differ in what they remember only take the same settings over alike. -/
theorem Alike.foldl_taking (h : Alike g g') (listed : List Settings) :
    Alike (listed.foldl Gateway.taking g) (listed.foldl Gateway.taking g') := by
  induction listed generalizing g g' with
  | nil => exact h
  | cons settings listed ih => exact ih (h.taking settings)

/-- Settings applied one after the other are taken over in order. -/
theorem run_applySettings (h : ¬ g.isStarted) (listed : List Settings)
    (hlength : ∀ settings ∈ listed, settings.rxChannels.length ≤ rxChannelCount) :
    ∃ g', run (listed.map .applySettings) g = (listed.map fun _ ↦ .ok .done, g') ∧
      Alike (listed.foldl taking g) g' := by
  induction listed generalizing g with
  | nil => exact ⟨g, rfl, Std.Refl.refl g⟩
  | cons settings listed ih =>
    obtain ⟨hfirst, hrest⟩ := List.forall_mem_cons.1 hlength
    obtain ⟨g₁, hstep, halike⟩ := step_applySettings h hfirst
    have hstopped : ¬ g₁.isStarted := (halike.isSetTo (isSetTo_taking h settings)).stopped
    obtain ⟨g', hrun, halike'⟩ := ih hstopped hrest
    refine ⟨g', ?_, IsTrans.trans _ _ _ (halike.foldl_taking listed) halike'⟩
    rw [List.map_cons, run_cons, hstep, hrun, List.map_cons]

/-! ### A new gateway -/

/-- Before any settings every radio is set to the default. -/
theorem rxChannels_new (link : Link) :
    (({ link := link } : Gateway).rxChannels[·]) = fun _ : Fin rxChannelCount ↦ {} := by
  funext radio
  rw [RxChannels.getElem_radio, Vector.getElem_replicate]

/-- Settings with no more channels than there are radios make a new gateway, which is stopped. -/
theorem step_replaceBy (g : Gateway) (hlength : settings.rxChannels.length ≤ rxChannelCount) :
    ∃ new, step (.replaceBy settings) g = (.ok .done, new) ∧ new.IsSetTo settings fun _ ↦ {} := by
  have hstopped : ¬ ({ link := g.link } : Gateway).isStarted := Bool.false_ne_true
  obtain ⟨link, -, happly⟩ := GatewayM.applySettings_of_stopped hstopped settings
  rw [if_pos hlength] at happly
  have hset := (rxChannels_new g.link ▸ isSetTo_taking hstopped settings).withLink link
  refine ⟨_, step_of_ok (bind_of_ok (GatewayM.replaceBy_of_ok happly)), ?_⟩
  split
  · exact hset.withLink link.close
  · exact hset

/-! ### Settings that were read -/

/-- **Settings that were read can always be applied.** They list no more channels than there are
radios. A new gateway made of them is stopped, and each radio is set to its listed channel or else
to the default. A stopped gateway takes them over, keeps the channels that are not listed, and finds
nothing to change if it is given them again. After other settings that were read, later ones take
the board, the transmit channel and the channels they list. -/
theorem applies_read_settings {text : String} (h : Settings.ofText text = .ok settings) :
    settings.rxChannels.length ≤ rxChannelCount ∧
    (∀ g, ∃ new, step (.replaceBy settings) g = (.ok .done, new) ∧
      new.IsSetTo settings (fun _ ↦ {}) ∧
      ∀ radio : Fin rxChannelCount, settings.rxChannels.length ≤ radio →
        new.rxChannels[radio].enabled = false ∧ new.rxChannels[radio].bandwidth = .khz800 ∧
          new.rxChannels[radio].spreading = .sf12) ∧
    (∀ g, ¬ g.isStarted → ∃ g', step (.applySettings settings) g = (.ok .done, g') ∧
      g'.IsSetTo settings (g.rxChannels[·]) ∧
      ∃ g'', step (.applySettings settings) g' = (.ok .done, g'') ∧ Alike g' g'') ∧
    ∀ laterText later, Settings.ofText laterText = .ok later → ∀ g, ¬ g.isStarted →
      ∃ g', run [.applySettings settings, .applySettings later] g = ([.ok .done, .ok .done], g') ∧
        g'.IsSetTo later fun radio ↦ settings.rxChannels.getD radio g.rxChannels[radio] := by
  have hlength := Settings.length_le_of_ofText h
  refine ⟨hlength, fun g ↦ ?new, fun g hstopped ↦ ?applied, fun _ later hread g hstopped ↦ ?later⟩
  case new =>
    obtain ⟨new, hstep, hset⟩ := step_replaceBy g hlength
    refine ⟨new, hstep, hset, fun radio hradio ↦ ?_⟩
    have hdefault : new.rxChannels[radio] = {} := by
      rw [hset.rxChannel, List.getD_eq_getElem?_getD, List.getElem?_eq_none hradio]
      rfl
    rw [hdefault]
    exact ⟨rfl, rfl, rfl⟩
  case applied =>
    obtain ⟨g', hstep, halike⟩ := step_applySettings hstopped hlength
    have hset := halike.isSetTo (isSetTo_taking hstopped settings)
    obtain ⟨g'', hstep', halike'⟩ := step_applySettings hset.stopped hlength
    -- the gateway before the second application is alike to one that has the settings in place
    have hagain : Alike (g.taking settings) (g'.taking settings) :=
      taking_taking g settings ▸ halike.taking settings
    exact ⟨g', hstep, hset, g'', hstep',
      IsTrans.trans _ _ _ (Std.Symm.symm _ _ halike) (IsTrans.trans _ _ _ hagain halike')⟩
  case later =>
    have hlater := Settings.length_le_of_ofText hread
    obtain ⟨g', hrun, halike⟩ := run_applySettings hstopped [settings, later]
      (List.forall_mem_cons.2 ⟨hlength, List.forall_mem_singleton.2 hlater⟩)
    refine ⟨g', hrun, halike.isSetTo ?_⟩
    have hset := isSetTo_taking hstopped settings
    have hset' := isSetTo_taking hset.stopped later
    simp only [hset.rxChannel] at hset'
    exact hset'

/-- Settings with one channel, then settings with none, on a new gateway: the channel stays. -/
theorem applies_read_settings_sample :
    let listing := Settings.offsetSettings ⟨0xC0200000⟩
    let moving : Settings := { board := { path := "/dev/ttyACM1" } }
    ∃ g', run [.applySettings listing, .applySettings moving] {} = ([.ok .done, .ok .done], g') ∧
      g'.board.path = "/dev/ttyACM1" ∧
      g'.rxChannels[(0 : Fin rxChannelCount)].freqHz = 2403000000 := by
  intro listing moving
  have hlisting : Settings.ofText (Settings.offsetText "-2.5") = .ok listing := by decide +kernel
  have hmoving : Settings.ofText "\x7b\"board\":\x7b\"tty_path\":\"/dev/ttyACM1\"\x7d\x7d" =
      .ok moving := by decide +kernel
  obtain ⟨-, -, -, hlater⟩ := applies_read_settings hlisting
  obtain ⟨g', hrun, hset⟩ := hlater _ _ hmoving {} Bool.false_ne_true
  refine ⟨g', hrun, congrArg BoardSettings.path hset.board, ?_⟩
  rw [hset.rxChannel]
  rfl

end Gateway

end LoraConcentrator
