import Aokie.Radio.Rfcomm.RoundTrip
import Aokie.Radio.Rfcomm.Session

/-! The credits that the peer holds towards us: what each channel's counter says about the frames on the wire. -/

namespace Aokie.Radio.Rfcomm

open Aokie.Lib

section Wire

/-- The frame carries data of the channel `d`. What is sent on the multiplexer's own channel are commands. -/
def RfcommFrame.isData (frame : RfcommFrame) (d : UInt8) : Bool :=
  decide (frame.kind = .uih ∧ frame.dlci = d ∧ d ≠ dlciMultiplexer) && !frame.payload.isEmpty

def RfcommClientOp.isData (d : UInt8) : RfcommClientOp → Bool
  | .packet bytes => (parseFrame bytes).toOption.any fun frame => frame.isData d
  | _ => false

/-- The credits that a frame on the wire grants on the channel `d`. -/
def grantOn (d : UInt8) (bytes : Bytes) : ℕ :=
  match parseFrame bytes with
  | .ok frame => if frame.dlci = d then (frame.credits.getD 0).toNat else 0
  | .error _ => 0

def grantsOn (d : UInt8) (frames : List Bytes) : ℕ := (frames.map (grantOn d)).sum

variable {d e : UInt8}

lemma grantOn_buildFrame {control : UInt8} (hcontrol : hasCredits control = false) (cr : Bool)
    (credits : Option UInt8) (payload : Bytes) : grantOn d (buildFrame e cr control credits payload) = 0 := by
  rw [grantOn, buildFrame_eq]
  split
  case h_1 frame hparse =>
    obtain ⟨-, -, len, octets, -, -, -, rfl⟩ := parseFrame_cons_eq_ok_iff.mp hparse
    simp [hcontrol]
  case h_2 => rfl

@[simp] lemma grantOn_buildUih_none (cr : Bool) (payload : Bytes) : grantOn d (buildUih e cr none payload) = 0 :=
  grantOn_buildFrame (by decide) cr none payload

@[simp] lemma grantOn_buildSabm (cr : Bool) : grantOn d (buildSabm e cr) = 0 :=
  grantOn_buildFrame (by decide) cr none []

@[simp] lemma grantOn_buildUa (cr : Bool) : grantOn d (buildUa e cr) = 0 := grantOn_buildFrame (by decide) cr none []

@[simp] lemma grantOn_buildDm (cr : Bool) : grantOn d (buildDm e cr) = 0 := grantOn_buildFrame (by decide) cr none []

@[simp] lemma grantOn_buildDisc (cr : Bool) : grantOn d (buildDisc e cr) = 0 :=
  grantOn_buildFrame (by decide) cr none []

lemma grantOn_refill (he : e < 64) (cr : Bool) (credits : UInt8) :
    grantOn d (buildUih e cr (some credits) []) = if e = d then credits.toNat else 0 := by
  rw [grantOn, parseFrame_buildUih cr (some credits) he (by simp)]
  rfl

@[simp] lemma grantsOn_nil : grantsOn d [] = 0 := rfl

@[simp] lemma grantsOn_singleton (frame : Bytes) : grantsOn d [frame] = grantOn d frame := by simp [grantsOn]

end Wire

/-- Where the negotiation of a channel's parameters has come to. -/
inductive PnStage
  | unasked
  | asked
  | settled
  deriving DecidableEq, Repr

def RfcommClientPhase.pnStage : RfcommClientPhase → PnStage
  | .idle | .awaitingMultiplexerUa => .unasked
  | .awaitingPnResponse => .asked
  | _ => .settled

def ClientDlciPhase.pnStage : ClientDlciPhase → PnStage
  | .awaitingPnRsp => .asked
  | _ => .settled

/-- What a channel's flow control towards us consists of. -/
structure CreditWindow where
  stage : PnStage
  creditFlow : Bool
  rxCreditsOutstanding : ℕ
  deriving DecidableEq, Repr

def SecondaryDlci.window (client : SecondaryDlci) : CreditWindow :=
  ⟨client.phase.pnStage, client.creditFlow, client.rxCreditsOutstanding⟩

def CreditWindow.afterData (w : CreditWindow) : CreditWindow :=
  if w.creditFlow then { w with rxCreditsOutstanding := (refillCredits w.rxCreditsOutstanding).1 } else w

def CreditWindow.grant (w : CreditWindow) : Option UInt8 :=
  if w.creditFlow then (refillCredits w.rxCreditsOutstanding).2 else none

/-- All that a step can do to the window of a channel, and the credits it grants there. -/
inductive WindowStep : Bool → Option CreditWindow → ℕ → Option CreditWindow → Prop
  | same {data : Bool} {w : Option CreditWindow} (hdata : data → w = none) : WindowStep data w 0 w
  | data (w : CreditWindow) : WindowStep true (some w) (w.grant.getD 0).toNat (some w.afterData)
  | asked {w : CreditWindow} (hstage : w.stage = .unasked) :
      WindowStep false (some w) 0 (some { w with stage := .asked, rxCreditsOutstanding := clientInitialCredits.toNat })
  | answered {w : CreditWindow} (hstage : w.stage = .asked) (flow : Bool) :
      WindowStep false (some w) 0 (some { w with stage := .settled, creditFlow := flow })
  | skipped (w : CreditWindow) : WindowStep false (some w) 0 (some { w with stage := .settled })
  | attached : WindowStep false none 0 (some ⟨.asked, false, clientInitialCredits.toNat⟩)
  | gone (w : Option CreditWindow) : WindowStep false w 0 none

lemma WindowStep.of_eq {v w : Option CreditWindow} (h : w = v) : WindowStep false v 0 w := by
  subst h
  exact .same nofun

namespace RfcommClientState

variable (s : RfcommClientState) {t : RfcommClientState} {d e : UInt8}

def primaryWindow : CreditWindow := ⟨s.phase.pnStage, s.creditFlow, s.rxCreditsOutstanding⟩

def window (d : UInt8) : Option CreditWindow :=
  if d = s.targetDlci then some s.primaryWindow else s.secondaryDlcis[d]?.map SecondaryDlci.window

def sends (s : RfcommClientState) : RfcommClientOp → List Bytes
  | .kickoff => s.kickoff.2.toOption.toList
  | .packet packet => (s.handlePacket packet).2.toOption.getD []
  | .attach serverChannel => ((s.attachClientDlci serverChannel).2.map Prod.snd).toOption.toList
  | .takeForDlci _ | .takeEvents => []
  | .send payload => (s.buildOutboundUih payload).2.toOption.toList
  | .sendOnDlci dlci payload => (s.buildUihOnClientDlci dlci payload).2.toOption.toList
  | .forceDisc dlci => [(s.buildForceDiscSecondaryDlci dlci).2]

def sending : Machine RfcommClientState RfcommClientOp (List Bytes) := fun s op => ((s.step op).1, s.sends op)

variable {s}

lemma windowStep_primary (htarget : t.targetDlci = s.targetDlci) (hsecondary : t.secondaryDlcis = s.secondaryDlcis)
    (hprimary : WindowStep false (some s.primaryWindow) 0 (some t.primaryWindow)) :
    WindowStep false (s.window d) 0 (t.window d) := by
  simp only [window, htarget, hsecondary]
  split_ifs
  · exact hprimary
  · exact .of_eq rfl

lemma windowStep_secondary {data : Bool} {granted : ℕ} (htarget : t.targetDlci = s.targetDlci)
    (hprimary : t.primaryWindow = s.primaryWindow)
    (hother : e ≠ d → t.secondaryDlcis[d]? = s.secondaryDlcis[d]? ∧ data = false ∧ granted = 0)
    (hown : e = d → d ≠ s.targetDlci → WindowStep data (s.secondaryDlcis[d]?.map SecondaryDlci.window) granted
      (t.secondaryDlcis[d]?.map SecondaryDlci.window))
    (htarget' : d = s.targetDlci → data = false ∧ granted = 0) :
    WindowStep data (s.window d) granted (t.window d) := by
  simp only [window, htarget, hprimary]
  split_ifs with hd
  · obtain ⟨rfl, rfl⟩ := htarget' hd
    exact .of_eq rfl
  · by_cases he : e = d
    · exact hown he hd
    · obtain ⟨hsame, rfl, rfl⟩ := hother he
      exact .of_eq (by rw [hsame])

lemma windowStep_insert {client : SecondaryDlci} (htarget : t.targetDlci = s.targetDlci)
    (hprimary : t.primaryWindow = s.primaryWindow) (hsecondary : t.secondaryDlcis = s.secondaryDlcis.insert e client)
    (hown : WindowStep false (s.secondaryDlcis[e]?.map SecondaryDlci.window) 0 (some client.window)) :
    WindowStep false (s.window d) 0 (t.window d) := by
  refine windowStep_secondary (e := e) htarget hprimary (fun he => ?_) (fun he _ => ?_) fun _ => ⟨rfl, rfl⟩
  · simp [hsecondary, Std.ExtTreeMap.getElem?_insert, he]
  · subst he
    simpa [hsecondary] using hown

lemma windowStep_erase (htarget : t.targetDlci = s.targetDlci) (hprimary : t.primaryWindow = s.primaryWindow)
    (hsecondary : t.secondaryDlcis = s.secondaryDlcis.erase e) : WindowStep false (s.window d) 0 (t.window d) := by
  refine windowStep_secondary (e := e) htarget hprimary (fun he => ?_) (fun he _ => ?_) fun _ => ⟨rfl, rfl⟩
  · simp [hsecondary, Std.ExtTreeMap.getElem?_erase, he]
  · subst he
    simpa [hsecondary] using WindowStep.gone _

lemma window_of_eq (htarget : t.targetDlci = s.targetDlci) (hprimary : t.primaryWindow = s.primaryWindow)
    (hsecondary : t.secondaryDlcis[d]?.map SecondaryDlci.window = s.secondaryDlcis[d]?.map SecondaryDlci.window) :
    t.window d = s.window d := by
  simp only [window, htarget, hprimary, hsecondary]

lemma map_window_insert {client client' : SecondaryDlci} (hclient : s.secondaryDlcis[e]? = some client)
    (hwindow : client'.window = client.window) :
    (s.secondaryDlcis.insert e client')[d]?.map SecondaryDlci.window =
      s.secondaryDlcis[d]?.map SecondaryDlci.window := by
  by_cases he : e = d
  · subst he
    simp [hclient, hwindow]
  · simp [Std.ExtTreeMap.getElem?_insert, he]

lemma map_window_modify {f : SecondaryDlci → SecondaryDlci} (hf : ∀ client, (f client).window = client.window) :
    (s.secondaryDlcis.modify e f)[d]?.map SecondaryDlci.window = s.secondaryDlcis[d]?.map SecondaryDlci.window := by
  by_cases he : e = d
  · subst he
    simp [Function.comp_def, hf]
  · simp [Std.ExtTreeMap.getElem?_modify, he]

lemma window_maybeOpenSecondary : (s.maybeOpenSecondary e).window d = s.window d := by
  simp only [maybeOpenSecondary]
  split
  · rfl
  case h_2 client hclient =>
    split_ifs with hready
    · refine window_of_eq rfl rfl (map_window_insert hclient ?_)
      simp [SecondaryDlci.window, hready.1, ClientDlciPhase.pnStage]
    · rfl

lemma windowStep_maybeEmitOpened (htarget : t.targetDlci = s.targetDlci)
    (hsecondary : t.secondaryDlcis = s.secondaryDlcis)
    (hprimary : t.primaryWindow = s.primaryWindow) : WindowStep false (s.window d) 0 (t.maybeEmitOpened.window d) := by
  simp only [maybeEmitOpened]
  split_ifs
  · refine windowStep_primary htarget hsecondary ?_
    rw [← hprimary]
    exact .skipped _
  · exact .of_eq (window_of_eq htarget hprimary (by rw [hsecondary]))

lemma windowStep_onPnResponse (frameType : UInt8) (maxFrameSize : UInt16) (credits : UInt8) :
    WindowStep false (s.window d) 0 ((s.onPnResponse e frameType maxFrameSize credits).1.window d) := by
  simp only [onPnResponse]
  split_ifs with hprimary
  · refine windowStep_primary rfl rfl (.answered ?_ _)
    simp [primaryWindow, hprimary.2, RfcommClientPhase.pnStage]
  · split
    case h_1 client hclient =>
      split_ifs with hphase
      · refine windowStep_insert rfl rfl rfl ?_
        rw [hclient]
        exact .answered (by simp [SecondaryDlci.window, hphase, ClientDlciPhase.pnStage]) _
      · exact .of_eq rfl
    case h_2 => exact .of_eq rfl

lemma windowStep_onMscResponse : WindowStep false (s.window d) 0 ((s.onMscResponse e).window d) := by
  simp only [onMscResponse]
  split_ifs
  · exact windowStep_maybeEmitOpened rfl rfl rfl
  · rw [window_maybeOpenSecondary]
    exact .of_eq (window_of_eq rfl rfl (map_window_modify fun _ => rfl))
  · exact .of_eq rfl

lemma windowStep_onMscCommand (signals : UInt8) : WindowStep false (s.window d) 0
    ((s.onMscCommand e signals).1.window d) := by
  simp only [onMscCommand]
  split_ifs
  · exact windowStep_maybeEmitOpened rfl rfl rfl
  · rw [window_maybeOpenSecondary]
    exact .of_eq (window_of_eq rfl rfl (map_window_modify fun _ => rfl))
  · exact .of_eq rfl

lemma windowStep_onMuxCommand (command : RfcommMuxCommand) :
    WindowStep false (s.window d) 0 ((s.onMuxCommand command).1.window d) := by
  match command with
  | .parameterNegotiation true dlci frameType _ maxFrameSize credits =>
    exact windowStep_onPnResponse frameType maxFrameSize credits
  | .modemStatus true dlci _ => exact windowStep_onMscResponse
  | .modemStatus false dlci signals => exact windowStep_onMscCommand signals
  | .parameterNegotiation false _ _ _ _ _ | .flowControlOn | .flowControlOff | .unknown _ _ => exact .of_eq rfl

lemma windowStep_onMuxUih (payload : Bytes) : WindowStep false (s.window d) 0 ((s.onMuxUih payload).1.window d) := by
  simp only [onMuxUih]
  cases parseMultiplexerCommand payload with
  | error message => exact .of_eq rfl
  | ok command => exact windowStep_onMuxCommand command

lemma windowStep_onUa : WindowStep false (s.window d) 0 ((s.onUa e).1.window d) := by
  simp only [onUa, onUaMultiplexer, onUaTarget, onUaSecondary]
  split_ifs with hmux hphase htarget hphase
  · exact .of_eq rfl
  · refine windowStep_primary rfl rfl (.asked ?_)
    simp [primaryWindow, not_not.mp hphase, RfcommClientPhase.pnStage]
  · exact .of_eq rfl
  · exact .of_eq rfl
  · split
    · exact .of_eq rfl
    case h_2 client hclient =>
      split_ifs with hphase
      · exact .of_eq rfl
      · refine .of_eq (window_of_eq rfl rfl (map_window_insert hclient ?_))
        simp [SecondaryDlci.window, not_not.mp hphase, ClientDlciPhase.pnStage]

lemma windowStep_onDm : WindowStep false (s.window d) 0 ((s.onDm e).window d) := by
  simp only [onDm, failSecondary, fail]
  split_ifs
  · exact windowStep_erase rfl rfl rfl
  · exact windowStep_primary rfl rfl (.skipped _)
  · exact .of_eq rfl

lemma windowStep_onDisc : WindowStep false (s.window d) 0 ((s.onDisc e).1.window d) := by
  simp only [onDisc, failSecondary, close]
  split_ifs
  · exact windowStep_erase rfl rfl rfl
  · exact windowStep_primary rfl rfl (.skipped _)
  · exact .of_eq rfl

lemma grantsOn_refill (he : e < 64) (grant : Option UInt8) :
    grantsOn d (grant.map fun credits => buildUih e true (some credits) []).toList =
      if e = d then (grant.getD 0).toNat else 0 := by
  cases grant with
  | none => simp
  | some credits => simp [grantOn_refill he]

lemma onUihTarget_spec (credits : Option UInt8) {payload : Bytes} (hpayload : payload.isEmpty = false) :
    (s.onUihTarget credits payload).1.targetDlci = s.targetDlci ∧
      (s.onUihTarget credits payload).1.secondaryDlcis = s.secondaryDlcis ∧
      (s.onUihTarget credits payload).1.primaryWindow = s.primaryWindow.afterData ∧
      (s.onUihTarget credits payload).2 =
        (s.primaryWindow.grant.map fun credits => buildUih s.targetDlci true (some credits) []).toList := by
  have hphase (credits : ℕ) : (({ s with txCredits := credits } : RfcommClientState).isOpen) = s.isOpen := rfl
  simp only [onUihTarget, hpayload, hphase, primaryWindow, CreditWindow.afterData, CreditWindow.grant]
  by_cases hopen : s.isOpen = true <;> by_cases hflow : s.creditFlow = true <;> simp [hopen, hflow]

lemma windowStep_onUihTarget (hlt : s.targetDlci < 64) (credits : Option UInt8) (payload : Bytes) :
    WindowStep (decide (s.targetDlci = d) && !payload.isEmpty) (s.window d)
      (grantsOn d (s.onUihTarget credits payload).2) ((s.onUihTarget credits payload).1.window d) := by
  cases hpayload : payload.isEmpty with
  | true =>
      simp only [onUihTarget, hpayload, if_true]
      exact .same (by simp)
  | false =>
      obtain ⟨htarget, hsecondary, hwindow, hsends⟩ := onUihTarget_spec (s := s) credits hpayload
      rw [hsends, grantsOn_refill hlt]
      simp only [window, htarget, hsecondary, hwindow]
      by_cases hd : s.targetDlci = d
      · subst hd
        simpa using WindowStep.data s.primaryWindow
      · simpa [hd, Ne.symm hd] using WindowStep.of_eq rfl

lemma onUihSecondary_spec {client : SecondaryDlci} (hclient : s.secondaryDlcis[e]? = some client)
    (credits : Option UInt8)
    {payload : Bytes} (hpayload : payload.isEmpty = false) :
    ∃ client', client'.window = client.window.afterData ∧
      (s.onUihSecondary e credits payload).1.secondaryDlcis = s.secondaryDlcis.insert e client' ∧
      (s.onUihSecondary e credits payload).2 =
        (client.window.grant.map fun credits => buildUih e true (some credits) []).toList := by
  simp only [onUihSecondary, hclient, hpayload, Bool.not_false, Bool.true_and]
  cases hflow : client.creditFlow with
  | false => exact ⟨_, by simp [SecondaryDlci.window, CreditWindow.afterData, hflow], rfl, by
      simp [SecondaryDlci.window, CreditWindow.grant, hflow]⟩
  | true => exact ⟨_, by simp [SecondaryDlci.window, CreditWindow.afterData, hflow], rfl, by
      simp [SecondaryDlci.window, CreditWindow.grant, hflow]⟩

lemma onUihSecondary_keeps (credits : Option UInt8) (payload : Bytes) :
    (s.onUihSecondary e credits payload).1.targetDlci = s.targetDlci ∧
      (s.onUihSecondary e credits payload).1.primaryWindow = s.primaryWindow := by
  simp only [onUihSecondary]
  split <;> exact ⟨rfl, rfl⟩

lemma windowStep_onUihSecondary (hlt : e < 64) (htarget : e ≠ s.targetDlci) (credits : Option UInt8) (payload : Bytes) :
    WindowStep (decide (e = d) && !payload.isEmpty) (s.window d)
      (grantsOn d (s.onUihSecondary e credits payload).2) ((s.onUihSecondary e credits payload).1.window d) := by
  obtain ⟨hkept, hprimary⟩ := onUihSecondary_keeps (s := s) (e := e) credits payload
  cases hclient : s.secondaryDlcis[e]? with
  | none =>
      have hnone : s.onUihSecondary e credits payload = (s, []) := by simp [onUihSecondary, hclient]
      rw [hnone]
      refine .same fun hdata => ?_
      have hd : e = d := by simpa using (Bool.and_eq_true_iff.mp hdata).1
      subst hd
      simp [window, htarget, hclient]
  | some client =>
      cases hpayload : payload.isEmpty with
      | true =>
          have hquiet : (s.onUihSecondary e credits payload).2 = [] := by simp [onUihSecondary, hclient, hpayload]
          have hwindow : ∃ client', client'.window = client.window ∧
              (s.onUihSecondary e credits payload).1.secondaryDlcis = s.secondaryDlcis.insert e client' := by
            simp only [onUihSecondary, hclient, hpayload, Bool.not_true, Bool.false_and]
            refine ⟨_, ?_, rfl⟩
            rfl
          obtain ⟨client', hclient', hsecondary⟩ := hwindow
          rw [hquiet, Bool.not_true, Bool.and_false]
          exact .of_eq (window_of_eq hkept hprimary (by rw [hsecondary, map_window_insert hclient hclient']))
      | false =>
          obtain ⟨client', hclient', hsecondary, hsends⟩ := onUihSecondary_spec hclient credits hpayload
          rw [hsends, grantsOn_refill hlt]
          simp only [window, hkept, hprimary, hsecondary]
          by_cases hd : e = d
          · subst hd
            simpa [htarget, hclient, hclient'] using WindowStep.data client.window
          · simpa [hd, Std.ExtTreeMap.getElem?_insert] using WindowStep.of_eq rfl

lemma grantsOn_onMuxCommand (command : RfcommMuxCommand) : grantsOn d (s.onMuxCommand command).2 = 0 := by
  match command with
  | .parameterNegotiation true dlci frameType _ maxFrameSize credits =>
    simp only [onMuxCommand, onPnResponse]
    split_ifs
    · simp
    · split
      · split_ifs <;> simp
      · simp
  | .modemStatus true dlci _ => rfl
  | .modemStatus false dlci signals =>
    simp only [onMuxCommand, onMscCommand]
    split_ifs <;> simp
  | .parameterNegotiation false _ _ _ _ _ | .flowControlOn | .flowControlOff | .unknown _ _ => rfl

lemma grantsOn_onMuxUih (payload : Bytes) : grantsOn d ((s.onMuxUih payload).2.toOption.getD []) = 0 := by
  simp only [onMuxUih]
  cases parseMultiplexerCommand payload with
  | error message => rfl
  | ok command => exact grantsOn_onMuxCommand command

lemma grantsOn_onUa : grantsOn d (s.onUa e).2 = 0 := by
  simp only [onUa, onUaMultiplexer, onUaTarget, onUaSecondary]
  split_ifs
  · simp
  · simp
  · simp
  · simp
  · split
    · simp
    · split_ifs <;> simp

lemma grantsOn_onDisc : grantsOn d (s.onDisc e).2 = 0 := by
  simp only [onDisc]
  split_ifs <;> simp

lemma windowStep_handleFrame {frame : RfcommFrame} (hlt : frame.dlci < 64) :
    WindowStep (frame.isData d) (s.window d) (grantsOn d ((s.handleFrame frame).2.toOption.getD []))
      ((s.handleFrame frame).1.window d) := by
  have hdata (hkind : frame.kind ≠ .uih) : frame.isData d = false := by simp [RfcommFrame.isData, hkind]
  cases hkind : frame.kind with
  | ua =>
      simp only [handleFrame, hkind, Prod.map_fst, Prod.map_snd, id_eq, Except.toOption, Option.getD_some]
      rw [hdata (by simp [hkind]), grantsOn_onUa]
      exact windowStep_onUa
  | dm =>
      simp only [handleFrame, hkind, Except.toOption, Option.getD_some]
      rw [hdata (by simp [hkind]), grantsOn_nil]
      exact windowStep_onDm
  | disc =>
      simp only [handleFrame, hkind, Prod.map_fst, Prod.map_snd, id_eq, Except.toOption, Option.getD_some]
      rw [hdata (by simp [hkind]), grantsOn_onDisc]
      exact windowStep_onDisc
  | sabm =>
      simp only [handleFrame, hkind, Except.toOption, Option.getD_some]
      rw [hdata (by simp [hkind]), grantsOn_nil]
      exact .of_eq rfl
  | unknown control =>
      simp only [handleFrame, hkind, Except.toOption, Option.getD_some]
      rw [hdata (by simp [hkind]), grantsOn_nil]
      exact .of_eq rfl
  | uih =>
      simp only [handleFrame, hkind, onUih]
      split_ifs with hmux htarget
      · have hcommand : frame.isData d = false := by
          simp only [RfcommFrame.isData, hmux, Bool.and_eq_false_iff, decide_eq_false_iff_not]
          exact .inl fun h => h.2.2 h.2.1.symm
        rw [hcommand, grantsOn_onMuxUih]
        exact windowStep_onMuxUih frame.payload
      · have hflag : frame.isData d = (decide (s.targetDlci = d) && !frame.payload.isEmpty) := by
          simp only [RfcommFrame.isData, hkind, ← htarget, true_and]
          congr 1
          exact decide_eq_decide.mpr ⟨And.left, fun h => ⟨h, h ▸ hmux⟩⟩
        rw [hflag]
        exact windowStep_onUihTarget (htarget ▸ hlt) frame.credits frame.payload
      · have hflag : frame.isData d = (decide (frame.dlci = d) && !frame.payload.isEmpty) := by
          simp only [RfcommFrame.isData, hkind, true_and]
          congr 1
          exact decide_eq_decide.mpr ⟨And.left, fun h => ⟨h, h ▸ hmux⟩⟩
        rw [hflag]
        exact windowStep_onUihSecondary hlt htarget frame.credits frame.payload

lemma dlci_lt_of_parseFrame {packet : Bytes} {frame : RfcommFrame} (h : parseFrame packet = .ok frame) :
    frame.dlci < 64 := by
  match packet with
  | [] | [_] => simp [parseFrame, requireLen, ensure, bind, Except.bind] at h
  | address :: control :: rest =>
    obtain ⟨-, -, len, octets, -, -, -, rfl⟩ := parseFrame_cons_eq_ok_iff.mp h
    exact shiftRight_two_lt address

lemma windowStep_attach (serverChannel : UInt8) :
    WindowStep false (s.window d) 0 ((s.attachClientDlci serverChannel).1.window d) := by
  simp only [attachClientDlci]
  split_ifs with hmux hused
  · exact .of_eq rfl
  · exact .of_eq rfl
  · obtain ⟨htarget, hunused⟩ := not_or.mp hused
    refine windowStep_insert rfl rfl rfl ?_
    rw [Std.ExtTreeMap.getElem?_eq_none hunused]
    exact .attached

lemma windowStep (s : RfcommClientState) (op : RfcommClientOp) (d : UInt8) :
    WindowStep (op.isData d) (s.window d) (grantsOn d (s.sends op)) ((s.step op).1.window d) := by
  cases op with
  | kickoff =>
      simp only [step, sends, kickoff, RfcommClientOp.isData]
      split_ifs with hphase
      · exact .of_eq rfl
      · simp only [Except.toOption, Option.toList_some, grantsOn_singleton, grantOn_buildSabm]
        refine .of_eq (window_of_eq rfl ?_ rfl)
        simp [primaryWindow, not_not.mp hphase, RfcommClientPhase.pnStage]
  | packet packet =>
      simp only [step, sends, handlePacket, RfcommClientOp.isData]
      cases hparse : parseFrame packet with
      | error message => exact .of_eq rfl
      | ok frame => exact windowStep_handleFrame (dlci_lt_of_parseFrame hparse)
  | attach serverChannel =>
      have hsends : grantsOn d (s.sends (.attach serverChannel)) = 0 := by
        simp only [sends, attachClientDlci]
        split_ifs <;> simp [Except.map, Except.toOption]
      rw [hsends]
      exact windowStep_attach serverChannel
  | takeForDlci dlci => exact .of_eq rfl
  | takeEvents => exact .of_eq rfl
  | send payload =>
      have hsends : grantsOn d (s.sends (.send payload)) = 0 := by
        simp only [sends, buildOutboundUih]
        split_ifs <;> simp [Except.toOption]
      rw [hsends]
      simp only [step, buildOutboundUih]
      split_ifs
      · exact .of_eq rfl
      · exact .of_eq (window_of_eq rfl rfl rfl)
      · exact .of_eq rfl
  | sendOnDlci dlci payload =>
      have hsends : grantsOn d (s.sends (.sendOnDlci dlci payload)) = 0 := by
        simp only [sends, buildUihOnClientDlci]
        split
        · rfl
        · split_ifs <;> simp [Except.toOption]
      rw [hsends]
      simp only [step, buildUihOnClientDlci]
      split
      · exact .of_eq rfl
      case h_2 client hclient =>
        split_ifs
        · exact .of_eq rfl
        · exact .of_eq (window_of_eq rfl rfl (map_window_insert hclient rfl))
        · exact .of_eq (window_of_eq rfl rfl (map_window_insert hclient rfl))
  | forceDisc dlci =>
      simp only [step, sends, buildForceDiscSecondaryDlci, RfcommClientOp.isData, grantsOn_singleton,
        grantOn_buildDisc]
      exact windowStep_erase rfl rfl rfl

lemma sends_data {op : RfcommClientOp} {w : CreditWindow} (hdata : op.isData d) (hw : s.window d = some w) :
    s.sends op = (w.grant.map fun credits => buildUih d true (some credits) []).toList := by
  match op with
  | .packet packet =>
    simp only [sends, handlePacket]
    cases hparse : parseFrame packet with
    | error message => simp [RfcommClientOp.isData, hparse, Except.toOption] at hdata
    | ok frame =>
        have hframe : frame.isData d := by simpa [RfcommClientOp.isData, hparse, Except.toOption] using hdata
        obtain ⟨⟨hkind, rfl, hmux⟩, hpayload⟩ : (frame.kind = .uih ∧ frame.dlci = d ∧ d ≠ dlciMultiplexer) ∧
            frame.payload.isEmpty = false := by simpa [RfcommFrame.isData] using hframe
        simp only [handleFrame, hkind, onUih, if_neg hmux]
        split_ifs with htarget
        · obtain rfl : s.primaryWindow = w := by simpa [window, htarget] using hw
          simp only [Prod.map_snd, Except.toOption, Option.getD_some, htarget]
          exact (onUihTarget_spec frame.credits hpayload).2.2.2
        · obtain ⟨client, hclient, rfl⟩ : ∃ client, s.secondaryDlcis[frame.dlci]? = some client ∧
              client.window = w := by
            simpa [window, htarget] using hw
          obtain ⟨-, -, -, hsends⟩ := onUihSecondary_spec hclient frame.credits hpayload
          simpa only [Prod.map_snd, Except.toOption, Option.getD_some] using hsends

end RfcommClientState

lemma refillCredits_spec {outstanding : ℕ} (hlow : 4 ≤ outstanding) (hhigh : outstanding ≤ 7) :
    4 ≤ (refillCredits outstanding).1 ∧ (refillCredits outstanding).1 ≤ 7 ∧
      (refillCredits outstanding).1 + 1 = outstanding + ((refillCredits outstanding).2.getD 0).toNat := by
  interval_cases outstanding <;> decide

/-- What every window keeps: no credit counts before the negotiation is over, and once they count the peer always
holds four at least. -/
structure CreditWindow.Kept (w : CreditWindow) : Prop where
  unsettled : w.stage ≠ .settled → w.creditFlow = false
  asked : w.stage = .asked → w.rxCreditsOutstanding = 7
  low : w.creditFlow → 4 ≤ w.rxCreditsOutstanding
  high : w.rxCreditsOutstanding ≤ 7

lemma CreditWindow.Kept.afterData {w : CreditWindow} (h : w.Kept) : w.afterData.Kept := by
  rw [CreditWindow.afterData]
  split_ifs with hflow
  · obtain ⟨hlow, hhigh, -⟩ := refillCredits_spec (h.low hflow) h.high
    have hsettled : w.stage = .settled := by
      by_contra hstage
      simp [h.unsettled hstage] at hflow
    exact ⟨fun hne => absurd hsettled hne, fun hasked => by simp [hsettled] at hasked, fun _ => hlow, hhigh⟩
  · exact h

lemma WindowStep.kept {data : Bool} {granted : ℕ} {v w : Option CreditWindow} (hstep : WindowStep data v granted w)
    (hv : ∀ x ∈ v, x.Kept) : ∀ x ∈ w, x.Kept := by
  cases hstep with
  | same => exact hv
  | data x =>
      rintro _ ⟨⟩
      exact (hv x rfl).afterData
  | @asked x hstage =>
      rintro _ ⟨⟩
      have hflow : x.creditFlow = false := (hv x rfl).unsettled (by simp [hstage])
      exact ⟨fun _ => hflow, fun _ => rfl, fun hon => by simp [hflow] at hon, le_refl 7⟩
  | @answered x hstage flow =>
      rintro _ ⟨⟩
      have hseven := (hv x rfl).asked hstage
      exact ⟨nofun, nofun, fun _ => by simp [hseven], hseven.le⟩
  | skipped x =>
      rintro _ ⟨⟩
      exact ⟨nofun, nofun, (hv x rfl).low, (hv x rfl).high⟩
  | attached =>
      rintro _ ⟨⟩
      exact ⟨fun _ => rfl, fun _ => rfl, nofun, by decide⟩
  | gone => nofun

namespace RfcommClientState

variable {s : RfcommClientState} {d : UInt8}

def Counts (s : RfcommClientState) (d : UInt8) : Prop := ∃ w ∈ s.window d, w.creditFlow

/-- The frames of data that came in on the channel, and the credits that went out. -/
def received (d : UInt8) (ops : List RfcommClientOp) : ℕ := ops.countP (RfcommClientOp.isData d)

def granted (s : RfcommClientState) (d : UInt8) (ops : List RfcommClientOp) : ℕ :=
  grantsOn d (sending.outputs s ops).flatten

lemma granted_concat (ops : List RfcommClientOp) (op : RfcommClientOp) :
    s.granted d (ops ++ [op]) = s.granted d ops + grantsOn d ((sending.final s ops).sends op) := by
  simp only [granted, grantsOn, Machine.outputs_append, List.flatten_append, List.map_append, List.sum_append]
  simp [Machine.outputs_cons, sending]

lemma received_concat (ops : List RfcommClientOp) (op : RfcommClientOp) :
    received d (ops ++ [op]) = received d ops + (op.isData d).toNat := by
  cases hdata : op.isData d <;> simp [received, List.countP_append, hdata]

lemma final_concat (ops : List RfcommClientOp) (op : RfcommClientOp) :
    sending.final s (ops ++ [op]) = ((sending.final s ops).step op).1 := by
  rw [Machine.final_append]
  rfl

lemma window_new {serverChannel : UInt8} {w : CreditWindow} (h : w ∈ (new serverChannel).window d) :
    w = ⟨.unasked, false, 0⟩ := by
  rw [Option.mem_def, window] at h
  split_ifs at h
  · exact (Option.some.inj h).symm
  · simp [new] at h

lemma kept_final (serverChannel : UInt8) (ops : List RfcommClientOp) (d : UInt8) :
    ∀ w ∈ (sending.final (new serverChannel) ops).window d, w.Kept := by
  apply Machine.always (m := sending) (P := fun s => ∀ w ∈ s.window d, w.Kept)
  · exact fun s op h => (windowStep s op d).kept h
  · intro w hw
    rw [window_new hw]
    exact ⟨fun _ => rfl, nofun, nofun, by decide⟩

/-- The channel's counter since the answer to our negotiation command, in a run that ends in `w`: seven, what we
granted more, less the data that came in. -/
def Accounted (s : RfcommClientState) (d : UInt8) (ops : List RfcommClientOp) (w : CreditWindow) : Prop :=
  ∃ before answer after, ops = before ++ answer :: after ∧ ¬(sending.final s before).Counts d ∧
    sending.Along (fun s _ => s.Counts d) (sending.final s (before ++ [answer])) after ∧
      w.rxCreditsOutstanding + received d after =
        7 + (sending.final s (before ++ [answer])).granted d after

lemma Accounted.concat {ops : List RfcommClientOp} {op : RfcommClientOp} {v w : CreditWindow}
    (h : Accounted s d ops v) (hv : (sending.final s ops).window d = some v) (hflow : v.creditFlow)
    (hcount : w.rxCreditsOutstanding + (op.isData d).toNat =
      v.rxCreditsOutstanding + grantsOn d ((sending.final s ops).sends op)) : Accounted s d (ops ++ [op]) w := by
  obtain ⟨before, answer, after, rfl, hbefore, hafter, hrx⟩ := h
  have hfinal : sending.final (sending.final s (before ++ [answer])) after =
      sending.final s (before ++ answer :: after) := by
    rw [← Machine.final_append, List.append_assoc, List.singleton_append]
  refine ⟨before, answer, after ++ [op], by simp, hbefore, ?_, ?_⟩
  · refine Machine.along_append.mpr ⟨hafter, ?_, trivial⟩
    rw [hfinal]
    exact ⟨v, hv, hflow⟩
  · rw [received_concat, granted_concat, hfinal]
    omega

lemma accounted_final (serverChannel : UInt8) (ops : List RfcommClientOp) (d : UInt8) :
    ∀ w ∈ (sending.final (new serverChannel) ops).window d, w.creditFlow → Accounted (new serverChannel) d ops w := by
  induction ops using List.reverseRecOn with
  | nil =>
      intro w hw hflow
      simp [window_new hw] at hflow
  | append_singleton ops op ih =>
      intro w hw hflow
      have hkept := kept_final serverChannel ops d
      have hstep := windowStep (sending.final (new serverChannel) ops) op d
      rw [final_concat] at hw
      rw [Option.mem_def] at hw
      rw [hw] at hstep
      generalize hv : (sending.final (new serverChannel) ops).window d = v at hstep ih hkept
      generalize hdata : op.isData d = data at hstep
      generalize hgrant : grantsOn d ((sending.final (new serverChannel) ops).sends op) = grant at hstep
      cases hstep with
      | same hnone =>
          have hquiet : data = false := by
            cases data with
            | false => rfl
            | true => simp at hnone
          exact (ih w rfl hflow).concat hv hflow (by simp [hdata, hgrant, hquiet])
      | data x =>
          have hx : x.creditFlow := by
            by_contra hx
            simp [CreditWindow.afterData, hx] at hflow
          have hk := hkept x rfl
          obtain ⟨-, -, hcount⟩ := refillCredits_spec (hk.low hx) hk.high
          refine (ih x rfl hx).concat hv hx ?_
          rw [hdata, hgrant, CreditWindow.afterData, CreditWindow.grant, if_pos hx, if_pos hx]
          exact hcount
      | @asked x hstage => simp [(hkept x rfl).unsettled (by simp [hstage])] at hflow
      | @answered x hstage flow =>
          refine ⟨ops, op, [], rfl, ?_, trivial, ?_⟩
          · rintro ⟨x', hx', hon⟩
            rw [hv] at hx'
            obtain rfl := Option.some.inj hx'
            simp [(hkept x rfl).unsettled (by simp [hstage])] at hon
          · simp [received, granted, (hkept x rfl).asked hstage]
      | skipped x => exact (ih x rfl hflow).concat hv hflow (by simp [hdata, hgrant])
      | attached => exact absurd hflow (by decide)

/-- A data frame on a channel whose credits count: the peer held one for it, the subtraction of the refill does not
run below zero, and the refill is what the credit frame of the step grants. -/
structure Refilled (s : RfcommClientState) (d : UInt8) (op : RfcommClientOp) (v w : CreditWindow) : Prop where
  held : 1 ≤ v.rxCreditsOutstanding
  refill : v.rxCreditsOutstanding - 1 ≤ clientCreditRefillThreshold →
    v.rxCreditsOutstanding - 1 ≤ clientInitialCredits.toNat ∧ ∃ refill : UInt8,
      refill.toNat = clientInitialCredits.toNat - (v.rxCreditsOutstanding - 1) ∧
      w.rxCreditsOutstanding = v.rxCreditsOutstanding - 1 + refill.toNat ∧
      s.sends op = [buildUih d true (some refill) []]
  enough : clientCreditRefillThreshold < v.rxCreditsOutstanding - 1 →
    w.rxCreditsOutstanding = v.rxCreditsOutstanding - 1 ∧ s.sends op = []
  low : 4 ≤ w.rxCreditsOutstanding

lemma refilled {op : RfcommClientOp} (hdata : op.isData d) {v : CreditWindow} (hv : s.window d = some v)
    (hflow : v.creditFlow) (hkept : v.Kept) : ∃ w ∈ (s.step op).1.window d, s.Refilled d op v w := by
  have hstep := windowStep s op d
  rw [hv, hdata] at hstep
  have hafter : (s.step op).1.window d = some v.afterData := by
    generalize (s.step op).1.window d = w at hstep
    generalize grantsOn d (s.sends op) = granted at hstep
    cases hstep with
    | same hnone => simp at hnone
    | data => rfl
  obtain ⟨hlow, -, -⟩ := refillCredits_spec (hkept.low hflow) hkept.high
  have hrx : v.afterData.rxCreditsOutstanding = (refillCredits v.rxCreditsOutstanding).1 := by
    rw [CreditWindow.afterData, if_pos hflow]
  refine ⟨v.afterData, hafter, ⟨(by decide : 1 ≤ 4).trans (hkept.low hflow), fun hfew => ?_, fun hmany =>
    ?_, hrx ▸ hlow⟩⟩
  · refine ⟨hfew.trans (by decide), UInt8.ofNat (clientInitialCredits.toNat - (v.rxCreditsOutstanding - 1)), ?_, ?_, ?_⟩
    · rw [UInt8.toNat_ofNat', Nat.mod_eq_of_lt]
      exact lt_of_le_of_lt (Nat.sub_le _ _) (by decide)
    · rw [hrx, refillCredits, if_pos hfew, UInt8.toNat_ofNat', Nat.mod_eq_of_lt]
      exact lt_of_le_of_lt (Nat.sub_le _ _) (by decide)
    · rw [sends_data hdata hv, CreditWindow.grant, if_pos hflow, refillCredits, if_pos hfew]
      rfl
  · refine ⟨?_, ?_⟩
    · rw [hrx, refillCredits, if_neg (by omega)]
    · rw [sends_data hdata hv, CreditWindow.grant, if_pos hflow, refillCredits, if_neg (by omega)]
      rfl

/-- What a run keeps of the flow control towards us. -/
structure CreditsKept (s : RfcommClientState) (d : UInt8) (ops : List RfcommClientOp) : Prop where
  accounted : ∀ w ∈ (sending.final s ops).window d, w.creditFlow → s.Accounted d ops w
  high : ∀ w ∈ (sending.final s ops).window d, w.rxCreditsOutstanding ≤ 7
  refilled : ∀ op : RfcommClientOp, op.isData d → ∀ v ∈ (sending.final s ops).window d, v.creditFlow →
    ∃ w ∈ ((sending.final s ops).step op).1.window d, (sending.final s ops).Refilled d op v w

theorem credits_kept (serverChannel : UInt8) (ops : List RfcommClientOp) (d : UInt8) :
    CreditsKept (new serverChannel) d ops where
  accounted := accounted_final serverChannel ops d
  high w hw := (kept_final serverChannel ops d w hw).high
  refilled _ hdata v hv hflow := refilled hdata hv hflow (kept_final serverChannel ops d v hv)

set_option maxRecDepth 8000 in
/-- The fourth data frame after the answer brings the peer back to seven credits. -/
example : (sending.final (new 1) ([.kickoff, .packet (buildUa dlciMultiplexer false),
    .packet (buildUih dlciMultiplexer false none (buildParameterNegotiationResponseCfc 3 7 127 0))] ++
      List.replicate 4 (.packet (buildUih 3 false none [65])))).window 3 = some ⟨.settled, true, 7⟩ := by
  decide

end RfcommClientState

end Aokie.Radio.Rfcomm
