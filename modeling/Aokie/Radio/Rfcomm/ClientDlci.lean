import Aokie.Radio.Rfcomm.DlciView

/-! Every operation of either multiplexer role is a step of the view of its outbound channels. -/

namespace Aokie.Radio.Rfcomm

open Aokie.Lib Aokie.Radio.Hfp

/-- What a frame means to the outbound channel `d` of the responder. -/
def RfcommFrame.cause (frame : RfcommFrame) (d : UInt8) : DlciCause :=
  if frame.dlci = d then
    match frame.kind with
    | .uih => .data
    | .dm => .closing
    | _ => .other
  else .other

/-- What a frame means to the secondary channel `d` of the initiator. -/
def RfcommFrame.clientCause (frame : RfcommFrame) (d : UInt8) : DlciCause :=
  if frame.dlci = d then
    match frame.kind with
    | .uih => if frame.payload.isEmpty then .other else .data
    | .dm | .disc => .closing
    | _ => .other
  else .other

variable {d : UInt8} {cause : DlciCause}

namespace RfcommState

def view (s : RfcommState) : DlciView where
  phase d := s.clientDlcis[d]?.map ClientDlci.phase
  events := s.clientEvents

variable (s : RfcommState) {t : RfcommState}

lemma view_buildHfpCommandFrame (now : Instant) (command : HfpAtCommand) :
    (s.buildHfpCommandFrame now command).1.view = s.view := by
  simp only [buildHfpCommandFrame]
  split_ifs <;> rfl

lemma view_nextHfpCommandFrame (now : Instant) : (s.nextHfpCommandFrame now).1.view = s.view := by
  simp only [nextHfpCommandFrame]
  split
  · rfl
  · next command rest _ => exact view_buildHfpCommandFrame { s with hfpPendingCommands := rest } now command

lemma view_advanceHfpSlcQueue (now : Instant) : (s.advanceHfpSlcQueue now).1.view = s.view := by
  have hnext := s.view_nextHfpCommandFrame now
  simp only [advanceHfpSlcQueue]
  split
  · next hframe => rwa [hframe] at hnext
  · next u hframe =>
      rw [hframe] at hnext
      split_ifs
      · split
        · exact (view_nextHfpCommandFrame _ now).trans hnext
        · exact hnext
      · exact hnext

lemma view_acceptCommand (now : Instant) : (s.acceptCommand now).1.view = s.view := by
  simp only [acceptCommand]
  split_ifs
  all_goals first
    | rfl
    | exact view_advanceHfpSlcQueue _ now

lemma view_refuseCommand (now : Instant) : (s.refuseCommand now).1.view = s.view := by
  simp only [refuseCommand]
  cases s.hfpInFlightCommand <;> simp only <;> split
  all_goals first
    | exact view_buildHfpCommandFrame _ now _
    | rfl

lemma view_failSlcCommand (now : Instant) : (s.failSlcCommand now).1.view = s.view := by
  simp only [failSlcCommand]
  split_ifs
  all_goals first
    | rfl
    | exact view_advanceHfpSlcQueue _ now

lemma view_handleHfpResult (now : Instant) (result : HfpAgResult) :
    (s.handleHfpResult now result).1.view = s.view := by
  simp only [handleHfpResult]
  split
  · split_ifs
    · rfl
    · exact view_acceptCommand _ now
  · split_ifs
    · exact view_refuseCommand _ now
    · exact view_failSlcCommand _ now
  · exact view_buildHfpCommandFrame _ now _
  · rfl

lemma view_handleHfpResults (now : Instant) (results : List HfpAgResult) :
    (handleHfpResults now s results).1.view = s.view := by
  induction results generalizing s with
  | nil => rfl
  | cons result rest ih =>
      exact (ih (s.handleHfpResult now result).1).trans (view_handleHfpResult s now result)

lemma view_handleHfpPayload (now : Instant) (payload : Bytes) :
    (s.handleHfpPayload now payload).1.view = s.view := by
  simp only [handleHfpPayload]
  split_ifs
  · rfl
  · split
    · rfl
    · next carry results _ => exact view_handleHfpResults { s with hfpLineCarry := carry } now results

lemma view_maybeKickAtSequence (now : Instant) : (s.maybeKickAtSequence now).1.view = s.view := by
  simp only [maybeKickAtSequence]
  split_ifs
  · rfl
  · exact view_nextHfpCommandFrame { s with mscAtKicked := true } now

lemma view_handleSabm (dlci : UInt8) : (s.handleSabm dlci).1.view = s.view := by
  simp only [handleSabm]
  split_ifs
  · rfl
  all_goals
    split
    · rfl
    · rfl

lemma view_handleDisc (dlci : UInt8) : (s.handleDisc dlci).1.view = s.view := by
  simp only [handleDisc]
  split_ifs
  · rfl
  · rfl
  · split <;> rfl

lemma view_tickHfpStall (now : Instant) (timeout : Duration) : (s.tickHfpStall now timeout).1.view = s.view := by
  simp only [tickHfpStall]
  split_ifs
  · split <;> rfl
  all_goals
    split
    · rfl
    · split_ifs <;> rfl

lemma view_insert (dlci : UInt8) (client : ClientDlci) (events : List ClientDlciEvent) :
    view { s with clientDlcis := s.clientDlcis.insert dlci client, clientEvents := events } =
      ⟨Function.update s.view.phase dlci (some client.phase), events⟩ := by
  simp only [view, DlciView.mk.injEq, and_true]
  funext d
  by_cases hd : dlci = d
  · simp [hd]
  · simp [Std.ExtTreeMap.getElem?_insert, Function.update_of_ne (Ne.symm hd), hd]

lemma view_erase (dlci : UInt8) :
    view { s with clientDlcis := s.clientDlcis.erase dlci } =
      { s.view with phase := Function.update s.view.phase dlci none } := by
  simp only [view, DlciView.mk.injEq, and_true]
  funext d
  by_cases hd : dlci = d
  · simp [hd]
  · simp [Std.ExtTreeMap.getElem?_erase, Function.update_of_ne (Ne.symm hd), hd]

lemma view_modify (dlci : UInt8) {f : ClientDlci → ClientDlci} (hf : ∀ client, (f client).phase = client.phase) :
    view { s with clientDlcis := s.clientDlcis.modify dlci f } = s.view := by
  simp only [view, DlciView.mk.injEq, and_true]
  funext d
  by_cases hd : dlci = d
  · subst hd
    simp [Function.comp_def, hf]
  · simp [Std.ExtTreeMap.getElem?_modify, hd]

variable {s}

lemma view_phase_of_getElem? {client : ClientDlci} (hclient : s.clientDlcis[d]? = some client) :
    s.view.phase d = some client.phase := by simp [view, hclient]

lemma exists_view_phase (hd : d ∈ s.clientDlcis) : ∃ phase, s.view.phase d = some phase := by
  obtain ⟨client, hclient⟩ := Option.isSome_iff_exists.mp (Std.ExtTreeMap.mem_iff_isSome_getElem?.mp hd)
  exact ⟨client.phase, view_phase_of_getElem? hclient⟩

lemma view_phase_eq_none (hd : d ∉ s.clientDlcis) : s.view.phase d = none := by
  simp [view, Std.ExtTreeMap.getElem?_eq_none hd]

lemma slotMoves_insert {e : UInt8} {client : ClientDlci} (events : List ClientDlciEvent)
    (howner : ∀ event ∈ events, event.dlci = e)
    (hstep : e = d → SlotStep true d cause (s.view.phase d) events (some client.phase)) :
    SlotMoves true d cause s.view (view { s with
      clientDlcis := s.clientDlcis.insert e client, clientEvents := s.clientEvents ++ events }) := by
  rw [view_insert]
  exact .update rfl rfl howner hstep

lemma slotMoves_insert_quiet {e : UInt8} {client : ClientDlci}
    (hstep : e = d → SlotStep true d cause (s.view.phase d) [] (some client.phase)) :
    SlotMoves true d cause s.view (view { s with clientDlcis := s.clientDlcis.insert e client }) := by
  simpa using slotMoves_insert [] (by simp) hstep

lemma slotMoves_onClientTargetUa (e : UInt8) :
    SlotMoves true d cause s.view (s.onClientTargetUa e).1.view := by
  simp only [onClientTargetUa]
  split
  · exact .of_eq rfl
  · next client hclient =>
      split_ifs with hphase
      · exact .of_eq rfl
      · refine slotMoves_insert_quiet ?_
        rintro rfl
        rw [view_phase_of_getElem? hclient, not_not.mp hphase]
        exact .accepted cause

lemma slotMoves_maybeOpenClientDlci (e : UInt8) (hview : t.view = s.view) :
    SlotMoves true d cause s.view (t.maybeOpenClientDlci e).view := by
  simp only [maybeOpenClientDlci]
  split
  · exact .of_eq hview
  · next client hclient =>
      split_ifs with hsettled
      · rw [← hview]
        refine slotMoves_insert _ (by simp) ?_
        rintro rfl
        rw [view_phase_of_getElem? hclient, hsettled.1]
        exact .opened cause
      · exact .of_eq hview

lemma slotMoves_onPnResponse (e : UInt8) (maxFrameSize : UInt16) :
    SlotMoves true d cause s.view (s.onPnResponse e maxFrameSize).1.view := by
  simp only [onPnResponse]
  split
  · next client hclient =>
      split_ifs with hphase
      · refine slotMoves_insert_quiet (s := { s with maxFrameSize := clampFrameSize maxFrameSize }) ?_
        rintro rfl
        have hwaiting := view_phase_of_getElem? hclient
        rw [hphase] at hwaiting
        exact hwaiting ▸ .negotiated cause
      · exact .of_eq rfl
  · exact .of_eq rfl

lemma slotMoves_onMscResponse (e : UInt8) : SlotMoves true d cause s.view (s.onMscResponse e).view := by
  simp only [onMscResponse]
  split_ifs
  · exact .of_eq rfl
  · refine slotMoves_maybeOpenClientDlci e ?_
    exact view_modify s e fun _ => rfl
  · exact .of_eq rfl

lemma slotMoves_onMscCommand (e signals : UInt8) :
    SlotMoves true d cause s.view (s.onMscCommand e signals).1.view := by
  simp only [onMscCommand]
  split_ifs
  · exact .of_eq rfl
  · refine slotMoves_maybeOpenClientDlci e ?_
    exact view_modify s e fun _ => rfl
  · exact .of_eq rfl
  · exact .of_eq rfl

lemma slotMoves_onMuxCommand (command : RfcommMuxCommand) :
    SlotMoves true d cause s.view (s.onMuxCommand command).1.view := by
  cases command with
  | parameterNegotiation isResponse dlci frameType priority maxFrameSize credits =>
      cases isResponse with
      | true => exact slotMoves_onPnResponse dlci maxFrameSize
      | false =>
          simp only [onMuxCommand, onPnCommand]
          split_ifs <;> exact .of_eq rfl
  | modemStatus isResponse dlci signals =>
      cases isResponse with
      | true => exact slotMoves_onMscResponse dlci
      | false => exact slotMoves_onMscCommand dlci signals
  | flowControlOn | flowControlOff | unknown commandType payload => exact .of_eq rfl

lemma slotMoves_handleMultiplexerPayload (now : Instant) (payload : Bytes) :
    SlotMoves true d cause s.view (s.handleMultiplexerPayload now payload).1.view := by
  simp only [handleMultiplexerPayload]
  split_ifs
  · exact .of_eq rfl
  · cases parseMultiplexerCommand payload with
    | error message => exact .of_eq rfl
    | ok command =>
        simp only [view_maybeKickAtSequence]
        exact slotMoves_onMuxCommand command

lemma view_failClientDlci {e : UInt8} (he : e ∈ s.clientDlcis) (reason : String) :
    (s.failClientDlci e reason).view =
      ⟨Function.update s.view.phase e (some (.failed reason)), s.clientEvents ++ [.failed e reason]⟩ := by
  simp only [failClientDlci, view, DlciView.mk.injEq, and_true]
  funext d
  by_cases hd : e = d
  · subst hd
    obtain ⟨client, hclient⟩ := Option.isSome_iff_exists.mp (Std.ExtTreeMap.mem_iff_isSome_getElem?.mp he)
    simp [hclient]
  · simp [Std.ExtTreeMap.getElem?_modify, Function.update_of_ne (Ne.symm hd), hd]

lemma slotMoves_failClientDlci {frame : RfcommFrame} (hkind : frame.kind = .dm)
    (htracked : frame.dlci ∈ s.clientDlcis) (reason : String) :
    SlotMoves true d (frame.cause d) s.view (s.failClientDlci frame.dlci reason).view := by
  rw [view_failClientDlci htracked]
  refine .update rfl rfl (by simp) ?_
  intro hd
  obtain ⟨phase, hphase⟩ := exists_view_phase htracked
  rw [← hd, hphase, RfcommFrame.cause, if_pos rfl, hkind]
  exact .failed phase reason

lemma slotMoves_onUih {frame : RfcommFrame} (hkind : frame.kind = .uih) (now : Instant) :
    SlotMoves true d (frame.cause d) s.view (s.onUih now frame.dlci frame.payload).1.view := by
  simp only [onUih]
  split_ifs with hmux hhfp htracked
  · exact slotMoves_handleMultiplexerPayload now frame.payload
  · exact .of_eq (view_handleHfpPayload s now frame.payload)
  · obtain ⟨phase, hphase⟩ := exists_view_phase htracked
    have hsame : s.view.phase = Function.update s.view.phase frame.dlci (some phase) :=
      (Function.update_eq_self_iff.mpr hphase.symm).symm
    refine .update hsame rfl (by simp) ?_
    intro hd
    rw [← hd, hphase, RfcommFrame.cause, if_pos rfl, hkind]
    exact .payload phase frame.payload
  · split <;> exact .of_eq rfl

lemma slotMoves_handleFrame (now : Instant) (frame : RfcommFrame) :
    SlotMoves true d (frame.cause d) s.view (s.handleFrame now frame).1.view := by
  cases hkind : frame.kind with
  | sabm => simpa [handleFrame, hkind] using SlotMoves.of_eq (view_handleSabm s frame.dlci)
  | ua => simpa [handleFrame, hkind] using slotMoves_onClientTargetUa frame.dlci
  | dm =>
      simp only [handleFrame, hkind]
      split_ifs with htracked
      · exact slotMoves_failClientDlci hkind htracked _
      · exact .of_eq rfl
  | disc => simpa [handleFrame, hkind] using SlotMoves.of_eq (view_handleDisc s frame.dlci)
  | uih => simpa [handleFrame, hkind] using slotMoves_onUih hkind now
  | unknown control => simpa [handleFrame, hkind] using SlotMoves.of_eq (v := s.view) rfl

def opCause : RfcommOp → UInt8 → DlciCause
  | .packet _ packet, d =>
    match parseFrame packet with
    | .ok frame => frame.cause d
    | .error _ => .other
  | _, _ => .other

lemma view_step_of_eq {op : RfcommOp} (hview : t.view = s.view) : ViewStep true (opCause op) s.view .silent t.view :=
  .moved t.view fun _ => .of_eq hview

lemma viewStep_attachClientDlci (serverChannel : UInt8) :
    ViewStep true (opCause (.attach serverChannel)) s.view (s.step (.attach serverChannel)).2
      (s.step (.attach serverChannel)).1.view := by
  simp only [step, attachClientDlci]
  split_ifs with hmux hused
  · exact view_step_of_eq rfl
  · exact view_step_of_eq rfl
  · push Not at hused
    simp only [Prod.map_apply, id_eq, attachOutcome]
    exact view_insert s _ _ s.clientEvents ▸ .attached _ (view_phase_eq_none hused.1)

theorem viewStep (s : RfcommState) (op : RfcommOp) :
    ViewStep true (opCause op) s.view (s.step op).2 (s.step op).1.view := by
  cases op with
  | packet now packet =>
      refine .moved _ fun d => ?_
      simp only [step, handlePacket, opCause]
      cases parseFrame packet with
      | error message => exact .of_eq rfl
      | ok frame => exact slotMoves_handleFrame now frame
  | attach serverChannel => exact viewStep_attachClientDlci serverChannel
  | takeForDlci dlci =>
      simp only [step, takeClientEventsForDlci, takeEventsForDlci_eq]
      exact .drained dlci
  | takeAll => exact .drainedAll
  | disc dlci =>
      simp only [step, buildDiscForClientDlci]
      split_ifs
      · exact view_erase s dlci ▸ .forgotten dlci
      · exact view_step_of_eq rfl
  | forceDisc dlci => exact view_erase s dlci ▸ .forgotten dlci
  | registerServerChannel serverChannel handlers => exact view_step_of_eq rfl
  | setWbsSupported supported => exact view_step_of_eq rfl
  | setCallWaitingEnabled enabled => exact view_step_of_eq rfl
  | takeHfpEvents => exact view_step_of_eq rfl
  | callControl now command =>
      simp only [step, buildCallControlCommand]
      split_ifs
      · exact view_step_of_eq rfl
      · exact view_step_of_eq (view_buildHfpCommandFrame s now command)
  | tick now timeout => exact view_step_of_eq (view_tickHfpStall s now timeout)

end RfcommState

namespace RfcommClientState

def view (s : RfcommClientState) : DlciView where
  phase d := s.secondaryDlcis[d]?.map SecondaryDlci.phase
  events := s.clientEvents

variable (s : RfcommClientState) {t : RfcommClientState}

lemma view_insert (dlci : UInt8) (client : SecondaryDlci) (events : List ClientDlciEvent) :
    view { s with secondaryDlcis := s.secondaryDlcis.insert dlci client, clientEvents := events } =
      ⟨Function.update s.view.phase dlci (some client.phase), events⟩ := by
  simp only [view, DlciView.mk.injEq, and_true]
  funext d
  by_cases hd : dlci = d
  · simp [hd]
  · simp [Std.ExtTreeMap.getElem?_insert, Function.update_of_ne (Ne.symm hd), hd]

lemma view_erase (dlci : UInt8) (events : List ClientDlciEvent) :
    view { s with secondaryDlcis := s.secondaryDlcis.erase dlci, clientEvents := events } =
      ⟨Function.update s.view.phase dlci none, events⟩ := by
  simp only [view, DlciView.mk.injEq, and_true]
  funext d
  by_cases hd : dlci = d
  · simp [hd]
  · simp [Std.ExtTreeMap.getElem?_erase, Function.update_of_ne (Ne.symm hd), hd]

lemma view_modify (dlci : UInt8) {f : SecondaryDlci → SecondaryDlci}
    (hf : ∀ client, (f client).phase = client.phase) :
    view { s with secondaryDlcis := s.secondaryDlcis.modify dlci f } = s.view := by
  simp only [view, DlciView.mk.injEq, and_true]
  funext d
  by_cases hd : dlci = d
  · subst hd
    simp [Function.comp_def, hf]
  · simp [Std.ExtTreeMap.getElem?_modify, hd]

lemma view_maybeEmitOpened : s.maybeEmitOpened.view = s.view := by
  simp only [maybeEmitOpened]
  split_ifs <;> rfl

lemma view_onUihTarget (credits : Option UInt8) (payload : Bytes) :
    (s.onUihTarget credits payload).1.view = s.view := by
  simp only [onUihTarget]
  cases s.isOpen <;> cases s.creditFlow <;> split_ifs
  all_goals rfl

variable {s}

lemma view_phase_of_getElem? {client : SecondaryDlci} (hclient : s.secondaryDlcis[d]? = some client) :
    s.view.phase d = some client.phase := by simp [view, hclient]

lemma exists_view_phase (hd : d ∈ s.secondaryDlcis) : ∃ phase, s.view.phase d = some phase := by
  obtain ⟨client, hclient⟩ := Option.isSome_iff_exists.mp (Std.ExtTreeMap.mem_iff_isSome_getElem?.mp hd)
  exact ⟨client.phase, view_phase_of_getElem? hclient⟩

lemma view_phase_eq_none (hd : d ∉ s.secondaryDlcis) : s.view.phase d = none := by
  simp [view, Std.ExtTreeMap.getElem?_eq_none hd]

lemma slotMoves_insert {e : UInt8} {client : SecondaryDlci} (events : List ClientDlciEvent)
    (howner : ∀ event ∈ events, event.dlci = e)
    (hstep : e = d → SlotStep false d cause (s.view.phase d) events (some client.phase)) :
    SlotMoves false d cause s.view (view { s with
      secondaryDlcis := s.secondaryDlcis.insert e client, clientEvents := s.clientEvents ++ events }) := by
  rw [view_insert]
  exact .update rfl rfl howner hstep

lemma slotMoves_insert_quiet {e : UInt8} {client : SecondaryDlci}
    (hstep : e = d → SlotStep false d cause (s.view.phase d) [] (some client.phase)) :
    SlotMoves false d cause s.view (view { s with secondaryDlcis := s.secondaryDlcis.insert e client }) := by
  simpa using slotMoves_insert [] (by simp) hstep

lemma slotMoves_onUaSecondary (e : UInt8) : SlotMoves false d cause s.view (s.onUaSecondary e).1.view := by
  simp only [onUaSecondary]
  split
  · exact .of_eq rfl
  · next client hclient =>
      split_ifs with hphase
      · exact .of_eq rfl
      · refine slotMoves_insert_quiet ?_
        rintro rfl
        rw [view_phase_of_getElem? hclient, not_not.mp hphase]
        exact .accepted cause

lemma slotMoves_onUa (e : UInt8) : SlotMoves false d cause s.view (s.onUa e).1.view := by
  simp only [onUa, onUaMultiplexer, onUaTarget]
  split_ifs
  all_goals first
    | exact .of_eq rfl
    | exact slotMoves_onUaSecondary e

lemma slotMoves_maybeOpenSecondary (e : UInt8) (hview : t.view = s.view) :
    SlotMoves false d cause s.view (t.maybeOpenSecondary e).view := by
  simp only [maybeOpenSecondary]
  split
  · exact .of_eq hview
  · next client hclient =>
      split_ifs with hsettled
      · rw [← hview]
        refine slotMoves_insert _ (by simp) ?_
        rintro rfl
        rw [view_phase_of_getElem? hclient, hsettled.1]
        exact .opened cause
      · exact .of_eq hview

lemma slotMoves_onPnResponse (e frameType : UInt8) (maxFrameSize : UInt16) (credits : UInt8) :
    SlotMoves false d cause s.view (s.onPnResponse e frameType maxFrameSize credits).1.view := by
  simp only [onPnResponse]
  split_ifs
  · exact .of_eq rfl
  · split
    · next client hclient =>
        split_ifs with hphase
        · refine slotMoves_insert_quiet ?_
          rintro rfl
          rw [view_phase_of_getElem? hclient, hphase]
          exact .negotiated cause
        · exact .of_eq rfl
    · exact .of_eq rfl

lemma slotMoves_onMscResponse (e : UInt8) : SlotMoves false d cause s.view (s.onMscResponse e).view := by
  simp only [onMscResponse]
  split_ifs
  · exact .of_eq (view_maybeEmitOpened _)
  · refine slotMoves_maybeOpenSecondary e ?_
    exact view_modify s e fun _ => rfl
  · exact .of_eq rfl

lemma slotMoves_onMscCommand (e signals : UInt8) :
    SlotMoves false d cause s.view (s.onMscCommand e signals).1.view := by
  simp only [onMscCommand]
  split_ifs
  · exact .of_eq (view_maybeEmitOpened _)
  · refine slotMoves_maybeOpenSecondary e ?_
    exact view_modify s e fun _ => rfl
  · exact .of_eq rfl

lemma slotMoves_onMuxUih (payload : Bytes) : SlotMoves false d cause s.view (s.onMuxUih payload).1.view := by
  simp only [onMuxUih]
  cases parseMultiplexerCommand payload with
  | error message => exact .of_eq rfl
  | ok command =>
      cases command with
      | parameterNegotiation isResponse dlci frameType priority maxFrameSize credits =>
          cases isResponse with
          | true => exact slotMoves_onPnResponse dlci frameType maxFrameSize credits
          | false => exact .of_eq rfl
      | modemStatus isResponse dlci signals =>
          cases isResponse with
          | true => exact slotMoves_onMscResponse dlci
          | false => exact slotMoves_onMscCommand dlci signals
      | flowControlOn | flowControlOff | unknown commandType payload => exact .of_eq rfl

lemma slotMoves_failSecondary {frame : RfcommFrame} (hkind : frame.kind = .dm ∨ frame.kind = .disc)
    (htracked : frame.dlci ∈ s.secondaryDlcis) (reason : String) :
    SlotMoves false d (frame.clientCause d) s.view (s.failSecondary frame.dlci reason).view := by
  rw [failSecondary, view_erase]
  refine .update rfl rfl (by simp) ?_
  intro hd
  obtain ⟨phase, hphase⟩ := exists_view_phase htracked
  have hcause : frame.clientCause frame.dlci = .closing := by
    rcases hkind with hkind | hkind <;> simp [RfcommFrame.clientCause, hkind]
  rw [← hd, hphase, hcause]
  exact .failed phase reason

lemma slotMoves_onUihSecondary {frame : RfcommFrame} (hkind : frame.kind = .uih) :
    SlotMoves false d (frame.clientCause d) s.view
      (s.onUihSecondary frame.dlci frame.credits frame.payload).1.view := by
  simp only [onUihSecondary]
  split
  · exact .of_eq rfl
  · next client hclient =>
      refine slotMoves_insert _ (by split_ifs <;> simp) ?_
      intro hd
      have hphase := view_phase_of_getElem? hclient
      cases hempty : frame.payload.isEmpty with
      | true =>
          rw [← hd, hphase]
          exact .same _ _
      | false =>
          have hcause : frame.clientCause frame.dlci = .data := by
            simp [RfcommFrame.clientCause, hkind, hempty]
          rw [← hd, hphase, hcause]
          cases client.creditFlow <;> exact .payload client.phase frame.payload

lemma slotMoves_handleFrame (frame : RfcommFrame) :
    SlotMoves false d (frame.clientCause d) s.view (s.handleFrame frame).1.view := by
  cases hkind : frame.kind with
  | ua => simpa [handleFrame, hkind] using slotMoves_onUa frame.dlci
  | dm =>
      simp only [handleFrame, hkind, onDm]
      split_ifs with htracked
      · exact slotMoves_failSecondary (.inl hkind) htracked _
      · exact .of_eq rfl
      · exact .of_eq rfl
  | disc =>
      simp only [handleFrame, hkind, onDisc]
      split_ifs with htracked
      · exact slotMoves_failSecondary (.inr hkind) htracked _
      · exact .of_eq rfl
      · exact .of_eq rfl
  | uih =>
      simp only [handleFrame, hkind, onUih]
      split_ifs
      · exact slotMoves_onMuxUih frame.payload
      · exact .of_eq (view_onUihTarget s frame.credits frame.payload)
      · exact slotMoves_onUihSecondary hkind
  | sabm | unknown control => simpa [handleFrame, hkind] using SlotMoves.of_eq (v := s.view) rfl

def opCause : RfcommClientOp → UInt8 → DlciCause
  | .packet packet, d =>
    match parseFrame packet with
    | .ok frame => frame.clientCause d
    | .error _ => .other
  | _, _ => .other

lemma view_step_of_eq {op : RfcommClientOp} (hview : t.view = s.view) :
    ViewStep false (opCause op) s.view .silent t.view :=
  .moved t.view fun _ => .of_eq hview

theorem viewStep (s : RfcommClientState) (op : RfcommClientOp) :
    ViewStep false (opCause op) s.view (s.step op).2 (s.step op).1.view := by
  cases op with
  | kickoff =>
      simp only [step, kickoff]
      split_ifs <;> exact view_step_of_eq rfl
  | packet packet =>
      refine .moved _ fun d => ?_
      simp only [step, handlePacket, opCause]
      cases parseFrame packet with
      | error message => exact .of_eq rfl
      | ok frame => exact slotMoves_handleFrame frame
  | attach serverChannel =>
      simp only [step, attachClientDlci]
      split_ifs with hmux hused
      · exact view_step_of_eq rfl
      · exact view_step_of_eq rfl
      · push Not at hused
        simp only [Prod.map_apply, id_eq, attachOutcome]
        exact view_insert s _ _ s.clientEvents ▸ .attached _ (view_phase_eq_none hused.2)
  | takeForDlci dlci =>
      simp only [step, takeClientEventsForDlci, takeEventsForDlci_eq]
      exact .drained dlci
  | takeEvents => exact view_step_of_eq rfl
  | send payload =>
      simp only [step, buildOutboundUih]
      split_ifs <;> exact view_step_of_eq rfl
  | sendOnDlci dlci payload =>
      simp only [step, buildUihOnClientDlci]
      split
      · exact view_step_of_eq rfl
      · next client hclient =>
          have hsame : (⟨Function.update s.view.phase dlci (some client.phase), s.clientEvents⟩ : DlciView) =
              s.view := by
            rw [Function.update_eq_self_iff.mpr (view_phase_of_getElem? hclient).symm]
            rfl
          split_ifs
          · exact view_step_of_eq rfl
          · exact view_step_of_eq ((view_insert s _ _ s.clientEvents).trans hsame)
          · exact view_step_of_eq ((view_insert s _ _ s.clientEvents).trans hsame)
  | forceDisc dlci => exact view_erase s dlci s.clientEvents ▸ .forgotten dlci

end RfcommClientState

end Aokie.Radio.Rfcomm
