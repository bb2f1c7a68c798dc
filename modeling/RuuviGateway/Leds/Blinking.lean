import RuuviGateway.Board.SwdSession
import RuuviGateway.Leds.Notifications

/-!
# The blinking sequences

`leds_task` shows one color of the current sequence at every signal of its timer. It asks the
controller for a new sequence only at the end of the current one, so what the LEDs show is made of
whole sequences.
-/

namespace RuuviGateway.Leds

open Board (LedsColor)
open General

section Sequences

/-- `leds_ctrl_defs.h`. -/
def LedsBlinkingMode.sequence : LedsBlinkingMode → List Char
  | .afterReboot => "R-R-R-R-".toList
  | .whileCheckingNrf52Fw => "-".toList
  | .controlledByNrf52 => "-".toList
  | .whileFlashingNrf52Fw => "R---------".toList
  | .nrf52Failure => "R".toList
  | .onCfgErasing => "-".toList
  | .onCfgErased => "RR--RR--".toList
  | .beforeReboot => "-".toList
  | .wifiHotspotActive => "RRRRRRRRRRGGGGGGGGGG".toList
  | .wifiHotspotActiveAndWps => "RRRRRRRRGRGGGGGGGGGG".toList
  | .networkProblem => "R-R-R-R-R-".toList
  | .notConnectedToAnyTarget => "RRRRR-----".toList
  | .noAdvs => "G-G-G-G-G-".toList
  | .connectedToAllTargets => "G".toList
  | .connectedToSomeTargets => "GGGGGGGGG-".toList

def cmdColor : Char → Option LedsColor
  | 'R' => some .red
  | 'G' => some .green
  | '-' => some .off
  | _ => none

/-- The colors of a sequence. -/
def LedsBlinkingMode.colors (mode : LedsBlinkingMode) : List LedsColor :=
  mode.sequence.map fun cmd => (cmdColor cmd).getD .off

/-- `leds_blinking_get_next_internal`: the color and the next position. It is `none` where the
sequence is read behind its end or the assertion on its characters fails. -/
def ledsBlinkingGetNextInternal (sequence : List Char) (idx : ℕ) : Option (LedsColor × ℕ) :=
  let text := sequence ++ ['\x00']
  text[idx]?.bind fun cmd => text[idx + 1]?.bind fun next =>
    (cmdColor cmd).map fun color => (color, if next = '\x00' then 0 else idx + 1)

theorem sequence_all (mode : LedsBlinkingMode) :
    (mode.sequence.all fun c => c != '\x00' && (cmdColor c).isSome) = true := by
  cases mode <;> decide

/-- No sequence is empty, and all characters are colors. -/
theorem sequence_valid (mode : LedsBlinkingMode) : mode.sequence ≠ [] ∧
    ∀ c ∈ mode.sequence, c ≠ '\x00' ∧ (cmdColor c).isSome = true := by
  constructor
  · cases mode <;> decide
  · simpa using sequence_all mode

theorem colors_ne_nil (mode : LedsBlinkingMode) : mode.colors ≠ [] := by
  simpa [LedsBlinkingMode.colors] using (sequence_valid mode).1

/-- Within a sequence no assertion fails, and the position returns to zero at the end. -/
theorem ledsBlinkingGetNextInternal_eq {mode : LedsBlinkingMode} {idx : ℕ}
    (hidx : idx < mode.colors.length) :
    ledsBlinkingGetNextInternal mode.sequence idx =
      some (mode.colors[idx], if idx + 1 = mode.colors.length then 0 else idx + 1) := by
  have hlen : idx < mode.sequence.length := by simpa [LedsBlinkingMode.colors] using hidx
  obtain ⟨-, hsome⟩ := (sequence_valid mode).2 mode.sequence[idx] (List.getElem_mem hlen)
  obtain ⟨color, hcolor⟩ := Option.isSome_iff_exists.mp hsome
  simp only [ledsBlinkingGetNextInternal, List.getElem?_append_left hlen,
    List.getElem?_eq_getElem hlen, Option.bind_some, hcolor, LedsBlinkingMode.colors,
    List.getElem_map, List.length_map, Option.getD_some, Option.map_some]
  by_cases hend : idx + 1 = mode.sequence.length
  · simp [hend]
  · have hnext : idx + 1 < mode.sequence.length := by omega
    obtain ⟨hnul, -⟩ := (sequence_valid mode).2 mode.sequence[idx + 1] (List.getElem_mem hnext)
    simp [List.getElem?_append_left hnext, List.getElem?_eq_getElem hnext, hnul, hend]

end Sequences

section Task

/-- `leds_task` with the current sequence, the position in it and the color that the LEDs show. -/
structure BlinkingTask where
  ctrl : LedsCtrl
  mode : LedsBlinkingMode
  idx : ℕ
  ledsState : LedsColor

/-- What an update shows, and the sequence that it sets. -/
structure Shown where
  color : Option LedsColor
  mode : Option LedsBlinkingMode

variable (b : BlinkingTask)

/-- `leds_blinking_set_new_sequence`, `none` if the current sequence has not been completed. -/
def BlinkingTask.setNewSequence (mode : LedsBlinkingMode) : Option BlinkingTask :=
  if b.idx = 0 then some { b with mode := mode } else none

/-- `leds_task_handle_sig_update`. A change of the color is left to the sessions with the analog
switch. -/
def ledsTaskHandleSigUpdate : Option (BlinkingTask × Shown) :=
  (ledsBlinkingGetNextInternal b.mode.sequence b.idx).bind fun r =>
    let b := { b with idx := r.2, ledsState := r.1 }
    if b.idx = 0 then
      (ledsCtrlGetNewBlinkingSequence b.ctrl).bind fun mode =>
        (b.setNewSequence mode).map fun b => (b, ⟨some r.1, some mode⟩)
    else some (b, ⟨some r.1, none⟩)

/-- A signal of `leds_task`, with the configuration at that time. -/
structure Handling where
  sig : LedsTaskSig
  params : LedsCtrlParams

/-- The other signals concern the controller only. -/
def BlinkingTask.step (l : Handling) : Option (BlinkingTask × Shown) :=
  if l.sig = .update then ledsTaskHandleSigUpdate b
  else (ledsTaskHandleSig ⟨b.ctrl, some b.mode⟩ ⟨false, l.params⟩ l.sig).map fun t =>
    ({ b with ctrl := t.ctrl }, ⟨none, none⟩)

/-- `leds_task` begins with the sequence of the controller. -/
def BlinkingTask.initial (flagConfigureButtonPressed : Bool) : BlinkingTask where
  ctrl := ledsCtrlInit flagConfigureButtonPressed
  mode := if flagConfigureButtonPressed then .onCfgErasing else .afterReboot
  idx := 0
  ledsState := .off

theorem initial_mode (button : Bool) : ledsCtrlGetNewBlinkingSequence (ledsCtrlInit button) =
    some (BlinkingTask.initial button).mode := by
  cases button <;> rfl

def blinkingTask (flagConfigureButtonPressed : Bool) : System BlinkingTask Handling Shown where
  init := .initial flagConfigureButtonPressed
  step := BlinkingTask.step

/-- What the LEDs have shown, the first color first. -/
def shownColors (h : List (Handling × Shown)) : List LedsColor :=
  (h.filterMap fun e => e.2.color).reverse

/-- The sequences that have been set, the first one first. -/
def chosenModes (h : List (Handling × Shown)) : List LedsBlinkingMode :=
  (h.filterMap fun e => e.2.mode).reverse

end Task

section Whole

variable {b b' : BlinkingTask} {h : List (Handling × Shown)} {button : Bool}

/-- The controller has left its initial state, in which it has no sequence. -/
theorem ledsCtrlGetNewBlinkingSequence_isSome {c : LedsCtrl} (hc : c.ledsSmState ≠ .initial) :
    (ledsCtrlGetNewBlinkingSequence c).isSome = true := by
  unfold ledsCtrlGetNewBlinkingSequence
  split
  case h_1 hinitial => exact absurd hinitial hc
  all_goals rfl

/-- What has been shown so far: the sequences but the last in full, and a part of the last. -/
structure WholeSequences (first : LedsBlinkingMode) (h : List (Handling × Shown))
    (b : BlinkingTask) : Prop where
  state : b.ctrl.ledsSmState ≠ .initial
  idx : b.idx < b.mode.colors.length
  shown : ∃ done : List LedsBlinkingMode, first :: chosenModes h = done ++ [b.mode] ∧
    shownColors h = done.flatMap LedsBlinkingMode.colors ++ b.mode.colors.take b.idx

theorem WholeSequences.update {first : LedsBlinkingMode} (hb : WholeSequences first h b)
    (params : LedsCtrlParams) : ∃ b' o, ledsTaskHandleSigUpdate b = some (b', o) ∧
      WholeSequences first ((⟨.update, params⟩, o) :: h) b' := by
  obtain ⟨hstate, hidx, done, hmodes, hcolors⟩ := hb
  have htake : b.mode.colors.take (b.idx + 1) =
      b.mode.colors.take b.idx ++ [b.mode.colors[b.idx]] :=
    List.take_succ_eq_append_getElem hidx
  by_cases hend : b.idx + 1 = b.mode.colors.length
  · obtain ⟨mode, hmode⟩ :=
      Option.isSome_iff_exists.mp (ledsCtrlGetNewBlinkingSequence_isSome hstate)
    have hall : b.mode.colors.take (b.idx + 1) = b.mode.colors := by rw [hend, List.take_length]
    refine ⟨⟨b.ctrl, mode, 0, b.mode.colors[b.idx]⟩, ⟨some b.mode.colors[b.idx], some mode⟩, ?_, ?_⟩
    · simp [ledsTaskHandleSigUpdate, ledsBlinkingGetNextInternal_eq hidx, hend, hmode,
        BlinkingTask.setNewSequence]
    refine ⟨hstate, List.length_pos_iff.mpr (colors_ne_nil mode), done ++ [b.mode], ?_, ?_⟩
    · simp only [chosenModes, List.filterMap_cons, List.reverse_cons] at hmodes ⊢
      rw [← List.cons_append, hmodes]
    · simp only [shownColors, List.filterMap_cons, List.reverse_cons, List.flatMap_append,
        List.flatMap_singleton, List.take_zero, List.append_nil] at hcolors ⊢
      rw [hcolors, List.append_assoc, ← htake, hall]
  · refine ⟨⟨b.ctrl, b.mode, b.idx + 1, b.mode.colors[b.idx]⟩, ⟨some b.mode.colors[b.idx], none⟩,
      ?_, ?_⟩
    · simp [ledsTaskHandleSigUpdate, ledsBlinkingGetNextInternal_eq hidx, hend]
    refine ⟨hstate, by dsimp only; omega, done, ?_, ?_⟩
    · simpa only [chosenModes, List.filterMap_cons] using hmodes
    · simp only [shownColors, List.filterMap_cons, List.reverse_cons] at hcolors ⊢
      rw [hcolors, htake, List.append_assoc]

/-- An event does not lead back to the initial state. -/
theorem ledsCtrlHandleEvent_ne_initial {c c' : LedsCtrl} {event : LedsCtrlEvent}
    (hc : c.ledsSmState ≠ .initial) (h : ledsCtrlHandleEvent c event = some c') :
    c'.ledsSmState ≠ .initial := by
  unfold ledsCtrlHandleEvent at h
  split_ifs at h
  obtain ⟨state, hstate, rfl⟩ := Option.map_eq_some_iff.mp h
  have hne : state ≠ .initial := fun hinitial =>
    hc (LedsCtrlState.next_initial (hinitial ▸ hstate))
  split_ifs
  · rwa [ledsCtrlDoActions_of_ne 2 (by simpa using hne), ledsCtrlTransition_state]
  · exact hc

theorem ledsTaskHandleSig_ne_initial {t t' : LedsTask} {o : SigOutcome} {sig : LedsTaskSig}
    (ht : t.ctrl.ledsSmState ≠ .initial) (h : ledsTaskHandleSig t o sig = some t') :
    t'.ctrl.ledsSmState ≠ .initial := by
  have hevent2 (event : LedsCtrl2Event) : (t.handleEvent2 event).ctrl.ledsSmState ≠ .initial := by
    unfold LedsTask.handleEvent2
    split_ifs <;> exact ht
  have hevent {t : LedsTask} (event : LedsCtrlEvent) (ht : t.ctrl.ledsSmState ≠ .initial)
      (h : t.handleEvent event = some t') : t'.ctrl.ledsSmState ≠ .initial := by
    obtain ⟨c, hc, rfl⟩ := Option.map_eq_some_iff.mp h
    exact ledsCtrlHandleEvent_ne_initial ht hc
  cases sig with
  | update =>
    simp only [ledsTaskHandleSig] at h
    split_ifs at h
    · obtain ⟨mode, -, rfl⟩ := Option.map_eq_some_iff.mp h
      exact ht
    · exact Option.some.inj h ▸ ht
  | onEvCfgReady => exact hevent (t := t.configure o.params) _ ht h
  | onEvReboot => exact hevent _ ht h
  | onEvNrf52FwCheck => exact hevent _ ht h
  | onEvNrf52FwUpdating => exact hevent _ ht h
  | onEvNrf52Ready => exact hevent _ ht h
  | onEvNrf52Failure => exact hevent _ ht h
  | onEvCfgErased => exact hevent _ ht h
  | onEvCfgChangedRuuvi => exact Option.some.inj h ▸ ht
  | taskWatchdogFeed => exact Option.some.inj h ▸ ht
  | _ => exact Option.some.inj h ▸ hevent2 _

theorem WholeSequences.step {first : LedsBlinkingMode} (hb : WholeSequences first h b)
    {l : Handling} {o : Shown} (hs : b.step l = some (b', o)) :
    WholeSequences first ((l, o) :: h) b' := by
  unfold BlinkingTask.step at hs
  split_ifs at hs with hupdate
  · obtain ⟨b'', o', heq, hwhole⟩ := hb.update l.params
    rw [hs] at heq
    cases heq
    exact ⟨hwhole.state, hwhole.idx, hwhole.shown⟩
  · obtain ⟨t, ht, heq⟩ := Option.map_eq_some_iff.mp hs
    cases heq
    exact ⟨ledsTaskHandleSig_ne_initial hb.state ht, hb.idx,
      by simpa [chosenModes, shownColors] using hb.shown⟩

theorem wholeSequences_run (hr : (blinkingTask button).FreeRun h b) :
    WholeSequences (BlinkingTask.initial button).mode h b := by
  refine hr.historyInvariant (I := WholeSequences _) ?_ fun h b l b' o hb _ hs => hb.step hs
  refine ⟨by cases button <;> decide, ?_, [], by simp [chosenModes, blinkingTask],
    by simp [shownColors, blinkingTask, BlinkingTask.initial]⟩
  exact List.length_pos_iff.mpr (colors_ne_nil _)

/-- In every run the timer finds a color to show, and what the LEDs have shown are the sequences
that the controller has chosen, one after the other and each in full but the last. -/
theorem leds_show_wholeSequences (hr : (blinkingTask button).FreeRun h b) :
    (∀ params, (b.step ⟨.update, params⟩).isSome = true) ∧
      shownColors h =
        (((BlinkingTask.initial button).mode :: chosenModes h).dropLast.flatMap
          LedsBlinkingMode.colors) ++ b.mode.colors.take b.idx ∧
      ((BlinkingTask.initial button).mode :: chosenModes h).getLast? = some b.mode := by
  have hwhole := wholeSequences_run hr
  obtain ⟨done, hmodes, hcolors⟩ := hwhole.shown
  refine ⟨fun params => ?_, ?_, ?_⟩
  · obtain ⟨b', o, heq, -⟩ := hwhole.update params
    exact Option.isSome_iff_exists.mpr ⟨_, heq⟩
  · rw [hmodes, List.dropLast_concat, hcolors]
  · rw [hmodes, List.getLast?_concat]

/-- Through the first sequence after a reboot and into the next one. -/
theorem leds_show_wholeSequences_sample : ∃ h b, (blinkingTask false).FreeRun h b ∧
    (b.idx = 1 ∧ shownColors h =
      ((LedsBlinkingMode.afterReboot :: chosenModes h).dropLast.flatMap LedsBlinkingMode.colors) ++
        b.mode.colors.take b.idx) := by
  obtain ⟨h, b, hr, hidx⟩ := System.exists_run_of_exec (S := blinkingTask false)
    (G := System.anyStep) (P := fun b => decide (b.idx = 1))
    (List.replicate 9 ⟨.update, ⟨false, 0⟩⟩) (by decide)
  exact ⟨h, b, hr, of_decide_eq_true hidx, (leds_show_wholeSequences hr).2.1⟩

end Whole

end RuuviGateway.Leds
