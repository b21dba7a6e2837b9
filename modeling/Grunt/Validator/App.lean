import Grunt.Validator.Native

/-!
# The command loop of the VSB and VSC applications

`vsb_app.c` and `vsc_app.c` are one program under two names.  Each application keeps two
diagnostic counters in the payload of its housekeeping telemetry message, `ctr_cmd_ok` and
`ctr_cmd_error`, and `*_process_command` counts every command message in one of them, by the
status its handler returns.  The payload type is not in the source: the counters are `w` bits
wide, and they "can roll".

The table service is cFE's.  `CFE_TBL_Manage`, which runs the application's validation function
on a pending table image, is the parameter `manage` on a table state `σ`, with the events it
sends.  `CFE_ES_RunLoop` returns `false` once the run status is `APP_ERROR`; the end of the list
of received messages stands for Executive Services stopping the application.

One command changes the counters as `Counters.count` says (`processCommand_counters`), so after
any run they hold what was counted since the last `RESET_COUNTERS` (`foldl_count_toNat`); each
housekeeping request transmits the counters as they stood before it (`processCommand_hkSent`);
and `*_Main` handles exactly the messages received before the first pipe read error
(`mainLoop_counters`).
-/

namespace Grunt.App

open Grunt.Vsa (cfeSuccess)

/-! ## Constants -/

/-- `VS_CMD_NOOP_INF_EID`. -/
def vsCmdNoopInfEid : Nat := 0x0001

/-- `VS_CMD_RESET_INF_EID`. -/
def vsCmdResetInfEid : Nat := 0x0002

/-- `VS_STARTUP_OK_INF_EID`. -/
def vsStartupOkInfEid : Nat := 0x0004

/-- `VS_MSG_BAD_CC_ERR_EID`. -/
def vsMsgBadCcErrEid : Nat := 0x1001

/-- `VS_MSG_BAD_MID_ERR_EID`. -/
def vsMsgBadMidErrEid : Nat := 0x1002

/-- `VS_PIPE_ERR_EID`. -/
def vsPipeErrEid : Nat := 0x1004

/-- The constants one application's command loop reads: `*_APP_NAME` and the message ids of
`vs_ground.h`, `*_APP_VERSION_STRING`, the name its pipe error text starts with, and the command
codes of its `*_fcncodes.h`. -/
structure AppConfig where
  appName : String
  versionString : String
  shortName : String
  cmdMid : Nat
  sendHkMid : Nat
  noopCc : Nat
  resetCountersCc : Nat

/-- VSB's constants, from `vs_ground.h` and `vsb_version.h`; its command codes
(`vsb_fcncodes.h`) are not in the source. -/
def vsbConfig (noopCc resetCountersCc : Nat) : AppConfig :=
  ⟨"VSB_APP", "VSB_APP v1.0.0 for cFS draco-rc5", "VSB", 0x1800 ||| 0x00A0, 0x1800 ||| 0x00A1,
    noopCc, resetCountersCc⟩

/-- VSC's constants, from `vs_ground.h`; its version string (`vsc_version.h`) and command codes
(`vsc_fcncodes.h`) are not in the source. -/
def vscConfig (versionString : String) (noopCc resetCountersCc : Nat) : AppConfig :=
  ⟨"VSC_APP", versionString, "VSC", 0x1800 ||| 0x00B0, 0x1800 ||| 0x00B1, noopCc, resetCountersCc⟩

/-- `printf`'s `%0<width>X`: the upper-case hexadecimal digits of `n`, padded with zeros to
`width`. -/
def hexUpper (width n : Nat) : List Char :=
  let digits := (Nat.toDigits 16 n).map Char.toUpper
  List.replicate (width - digits.length) '0' ++ digits

/-! ## State and messages -/

/-- The payload's `ctr_cmd_ok` and `ctr_cmd_error`. -/
structure Counters (w : Nat) where
  ctrCmdOk : BitVec w
  ctrCmdError : BitVec w
  deriving DecidableEq, Repr

/-- `*_state` as the command loop changes it, with what the application has sent: the
housekeeping counters, the state of the table behind `h_table`, the events sent, and the
counters of each housekeeping telemetry message transmitted. -/
structure AppState (w : Nat) (σ : Type) where
  counters : Counters w
  table : σ
  events : List Event
  hkSent : List (Counters w)

/-- The fields of a command message that `*_process_command` reads. -/
structure Message where
  msgId : Nat
  fcnCode : Nat
  deriving DecidableEq, Repr

/-- What `CFE_SB_ReceiveBuffer` hands the run loop: a command message, or a pipe read error. -/
inductive Received
  | message (msg : Message)
  | pipeError
  deriving DecidableEq, Repr

variable (cfg : AppConfig) (info err : Number) {w : Nat} {σ : Type}
  (manage : σ → σ × List Event)

/-! ## `vsc_app.c` -/

/-- `CFE_EVS_SendEvent`. -/
def sendEvent (s : AppState w σ) (ev : Event) : AppState w σ := { s with events := s.events ++ [ev] }

/-- `*_reset_diagnostic_counters`. -/
def resetDiagnosticCounters (s : AppState w σ) : AppState w σ := { s with counters := ⟨0, 0⟩ }

/-- `*_init`: `CFE_MSG_Init` zeroes the housekeeping message, and the start-up event follows when
the registrations with cFE and the table's (`initOk`) succeed. -/
def appInit (initOk : Bool) (s : AppState w σ) : AppState w σ :=
  let s := resetDiagnosticCounters s
  if initOk then
    sendEvent s ⟨vsStartupOkInfEid, info.val,
      (cfg.versionString ++ " initialized, awaiting enable command").toList⟩
  else s

@[simp] theorem appInit_counters (initOk : Bool) (s : AppState w σ) :
    (appInit cfg info initOk s).counters = ⟨0, 0⟩ := by
  cases initOk <;> rfl

/-- `*_process_housekeeping`: `CFE_TBL_Manage`, whose result it ignores, then the housekeeping
message with the counters as they stand. -/
def processHousekeeping (s : AppState w σ) : AppState w σ × Int :=
  let managed := manage s.table
  ({ s with table := managed.1, events := s.events ++ managed.2, hkSent := s.hkSent ++ [s.counters] },
    cfeSuccess)

/-- `*_process_ground_command`. -/
def processGroundCommand (msg : Message) (s : AppState w σ) : AppState w σ × Int :=
  if msg.fcnCode = cfg.noopCc then
    (sendEvent s ⟨vsCmdNoopInfEid, info.val, (cfg.versionString ++ " received no-op command.").toList⟩,
      cfeSuccess)
  else if msg.fcnCode = cfg.resetCountersCc then
    (sendEvent (resetDiagnosticCounters s)
      ⟨vsCmdResetInfEid, info.val, (cfg.appName ++ ": reset diagnostic counters.").toList⟩, cfeSuccess)
  else
    (sendEvent s ⟨vsMsgBadCcErrEid, err.val,
      (cfg.appName ++ ": received ground command message with invalid command code 0x").toList ++
        hexUpper 2 msg.fcnCode ++ ['.']⟩, vsMsgBadCcErrEid)

/-- The `switch` of `*_process_command`: the handler for the message's id, with the status it
returns. -/
def dispatch (msg : Message) (s : AppState w σ) : AppState w σ × Int :=
  if msg.msgId = cfg.sendHkMid then processHousekeeping manage s
  else if msg.msgId = cfg.cmdMid then processGroundCommand cfg info err msg s
  else
    (sendEvent s ⟨vsMsgBadMidErrEid, err.val,
      (cfg.appName ++ ": received command message with invalid MID 0x").toList ++
        hexUpper 3 msg.msgId ++ ['.']⟩, vsMsgBadMidErrEid)

/-- `*_process_command`: the handler for the message's id, then one more in `ctr_cmd_ok` or in
`ctr_cmd_error` as it returned `CFE_SUCCESS` or not. -/
def processCommand (msg : Message) (s : AppState w σ) : AppState w σ :=
  let handled := dispatch cfg info err manage msg s
  let s := handled.1
  if handled.2 = cfeSuccess then { s with counters := { s.counters with ctrCmdOk := s.counters.ctrCmdOk + 1 } }
  else { s with counters := { s.counters with ctrCmdError := s.counters.ctrCmdError + 1 } }

/-- The `while (CFE_ES_RunLoop(&run_status))` loop of `*_Main` from `run_status = APP_RUN`: a
pipe read error sends its event and sets `APP_ERROR`, which ends the loop. -/
def mainLoop : List Received → AppState w σ → AppState w σ
  | [], s => s
  | .message msg :: received, s => mainLoop received (processCommand cfg info err manage msg s)
  | .pipeError :: _, s =>
    sendEvent s ⟨vsPipeErrEid, err.val,
      (cfg.shortName ++ ": SB pipe read error; " ++ cfg.shortName ++ " App will shutdown").toList⟩

/-- `*_Main`: `*_init`, then the run loop if it succeeded. -/
def appMain (initOk : Bool) (received : List Received) (s : AppState w σ) : AppState w σ :=
  let s := appInit cfg info initOk s
  if initOk then mainLoop cfg info err manage received s else s

/-- `VSB_process_command`. -/
def vsbProcessCommand (noopCc resetCountersCc : Nat) : Message → AppState w σ → AppState w σ :=
  processCommand (vsbConfig noopCc resetCountersCc) info err manage

/-- `VSB_Main`. -/
def vsbMain (noopCc resetCountersCc : Nat) : Bool → List Received → AppState w σ → AppState w σ :=
  appMain (vsbConfig noopCc resetCountersCc) info err manage

/-- `VSC_process_command`. -/
def vscProcessCommand (versionString : String) (noopCc resetCountersCc : Nat) :
    Message → AppState w σ → AppState w σ :=
  processCommand (vscConfig versionString noopCc resetCountersCc) info err manage

/-- `VSC_Main`. -/
def vscMain (versionString : String) (noopCc resetCountersCc : Nat) :
    Bool → List Received → AppState w σ → AppState w σ :=
  appMain (vscConfig versionString noopCc resetCountersCc) info err manage

/-! ## What one command does -/

/-- The branch of `*_process_command` a message takes. -/
inductive Kind
  | housekeeping
  | noop
  | resetCounters
  | badCc
  | badMid
  deriving DecidableEq, Repr

/-- The branch `msg` takes, by the same tests in the same order. -/
def kind (msg : Message) : Kind :=
  if msg.msgId = cfg.sendHkMid then .housekeeping
  else if msg.msgId = cfg.cmdMid then
    if msg.fcnCode = cfg.noopCc then .noop
    else if msg.fcnCode = cfg.resetCountersCc then .resetCounters
    else .badCc
  else .badMid

/-- The branches whose handler returns `CFE_SUCCESS`. -/
def Kind.succeeds : Kind → Bool
  | .badCc | .badMid => false
  | _ => true

/-- What a command of each kind does to the counters. -/
def Counters.count (c : Counters w) : Kind → Counters w
  | .resetCounters => ⟨1, 0⟩
  | .badCc | .badMid => { c with ctrCmdError := c.ctrCmdError + 1 }
  | _ => { c with ctrCmdOk := c.ctrCmdOk + 1 }

/-- What the handler of each kind of message returns, and what it does to the counters and to
the housekeeping reports. -/
theorem dispatch_spec (msg : Message) (s : AppState w σ) :
    ((dispatch cfg info err manage msg s).2 = cfeSuccess ↔ (kind cfg msg).succeeds) ∧
      (dispatch cfg info err manage msg s).1.counters =
        (if kind cfg msg = .resetCounters then ⟨0, 0⟩ else s.counters) ∧
      (dispatch cfg info err manage msg s).1.hkSent =
        s.hkSent ++ if kind cfg msg = .housekeeping then [s.counters] else [] := by
  unfold dispatch kind
  by_cases hhk : msg.msgId = cfg.sendHkMid
  · simp only [if_pos hhk]
    exact ⟨iff_of_true rfl rfl, rfl, rfl⟩
  by_cases hcmd : msg.msgId = cfg.cmdMid
  · simp only [if_neg hhk, if_pos hcmd, processGroundCommand]
    by_cases hnoop : msg.fcnCode = cfg.noopCc
    · simp only [if_pos hnoop]
      exact ⟨iff_of_true trivial rfl, rfl, (List.append_nil _).symm⟩
    by_cases hreset : msg.fcnCode = cfg.resetCountersCc
    · simp only [if_neg hnoop, if_pos hreset]
      exact ⟨iff_of_true trivial rfl, rfl, (List.append_nil _).symm⟩
    · simp only [if_neg hnoop, if_neg hreset]
      exact ⟨iff_of_false (by decide) (by decide), rfl, (List.append_nil _).symm⟩
  · simp only [if_neg hhk, if_neg hcmd]
    exact ⟨iff_of_false (by decide) (by decide), rfl, (List.append_nil _).symm⟩

theorem processCommand_counters (msg : Message) (s : AppState w σ) :
    (processCommand cfg info err manage msg s).counters = s.counters.count (kind cfg msg) := by
  obtain ⟨hstatus, hcounters, -⟩ := dispatch_spec cfg info err manage msg s
  simp only [processCommand, hstatus, hcounters]
  generalize kind cfg msg = k
  cases k <;> first | rfl | simp [Kind.succeeds, Counters.count]

/-- A housekeeping request transmits the counters as they stood before it, and no other command
transmits anything. -/
theorem processCommand_hkSent (msg : Message) (s : AppState w σ) :
    (processCommand cfg info err manage msg s).hkSent =
      s.hkSent ++ if kind cfg msg = .housekeeping then [s.counters] else [] := by
  rw [← (dispatch_spec cfg info err manage msg s).2.2]
  simp only [processCommand]
  split_ifs <;> rfl

/-! ## Runs -/

/-- `*_process_command` over the messages `msgs`, in order. -/
def processCommands (msgs : List Message) (s : AppState w σ) : AppState w σ :=
  msgs.foldl (fun s msg => processCommand cfg info err manage msg s) s

theorem processCommands_append (msgs msgs' : List Message) (s : AppState w σ) :
    processCommands cfg info err manage (msgs ++ msgs') s =
      processCommands cfg info err manage msgs' (processCommands cfg info err manage msgs s) :=
  List.foldl_append _ _ _ _

theorem processCommands_counters (msgs : List Message) (s : AppState w σ) :
    (processCommands cfg info err manage msgs s).counters =
      (msgs.map (kind cfg)).foldl Counters.count s.counters := by
  induction msgs generalizing s with
  | nil => rfl
  | cons msg msgs ih =>
    simp only [processCommands, List.foldl_cons, List.map_cons] at ih ⊢
    rw [ih, processCommand_counters]

theorem processCommands_hkSent (msgs : List Message) (s : AppState w σ) :
    ∃ reports, (processCommands cfg info err manage msgs s).hkSent = s.hkSent ++ reports ∧
      reports.length = (msgs.map (kind cfg)).count .housekeeping := by
  induction msgs generalizing s with
  | nil => exact ⟨[], by simp [processCommands]⟩
  | cons msg msgs ih =>
    obtain ⟨reports, hsent, hlen⟩ := ih (processCommand cfg info err manage msg s)
    refine ⟨(if kind cfg msg = .housekeeping then [s.counters] else []) ++ reports, ?_, ?_⟩
    · simpa only [processCommands, List.foldl_cons, processCommand_hkSent, List.append_assoc]
        using hsent
    · rw [List.length_append, hlen, List.map_cons, List.count_cons]
      by_cases h : kind cfg msg = .housekeeping <;> simp [h, Nat.add_comm]

/-- The kinds since the last `RESET_COUNTERS`, latest first. -/
def sinceReset (ks : List Kind) : List Kind := ks.reverse.takeWhile (· ≠ .resetCounters)

theorem sinceReset_append_singleton (ks : List Kind) (k : Kind) :
    sinceReset (ks ++ [k]) = if k = .resetCounters then [] else k :: sinceReset ks := by
  by_cases h : k = .resetCounters <;> simp [sinceReset, List.takeWhile_cons, h]

theorem toNat_add_one {x : BitVec w} {a : Nat} (h : x.toNat = a % 2 ^ w) :
    (x + 1).toNat = (a + 1) % 2 ^ w := by
  rw [BitVec.toNat_add, h, Nat.mod_add_mod, BitVec.ofNat_eq_ofNat, BitVec.toNat_ofNat, Nat.add_mod_mod]

/-- Counting from `c` over the kinds `ks`: since the last `RESET_COUNTERS` (which leaves one
command counted in `ctr_cmd_ok`), or since `c` if there was none, one more in `ctr_cmd_ok` for
each command that succeeded and one more in `ctr_cmd_error` for each that failed, modulo `2 ^ w`. -/
theorem foldl_count_toNat (c : Counters w) (ks : List Kind) :
    (ks.foldl Counters.count c).ctrCmdOk.toNat =
        ((if .resetCounters ∈ ks then 1 else c.ctrCmdOk.toNat) +
          (sinceReset ks).countP Kind.succeeds) % 2 ^ w ∧
      (ks.foldl Counters.count c).ctrCmdError.toNat =
        ((if .resetCounters ∈ ks then 0 else c.ctrCmdError.toNat) +
          (sinceReset ks).countP (fun k => !k.succeeds)) % 2 ^ w := by
  induction ks using List.reverseRecOn with
  | nil => simp [sinceReset, BitVec.isLt]
  | append_singleton ks k ih =>
    rw [List.foldl_append, List.foldl_cons, List.foldl_nil, sinceReset_append_singleton]
    cases k
    case resetCounters => simp [Counters.count]
    all_goals
      simp only [Counters.count, List.mem_append, List.mem_singleton, reduceCtorEq, or_false,
        if_false, List.countP_cons, Kind.succeeds]
    · exact ⟨toNat_add_one ih.1, ih.2⟩
    · exact ⟨toNat_add_one ih.1, ih.2⟩
    · exact ⟨ih.1, toNat_add_one ih.2⟩
    · exact ⟨ih.1, toNat_add_one ih.2⟩

/-- The housekeeping report a request transmits in a run: the counters after exactly the commands
before it, in the place that the earlier requests' reports leave it. -/
theorem processCommands_report (pre post : List Message) (msg : Message) (s : AppState w σ)
    (hmsg : kind cfg msg = .housekeeping) :
    (processCommands cfg info err manage (pre ++ msg :: post) s).hkSent[s.hkSent.length +
        (pre.map (kind cfg)).count .housekeeping]? =
      some (processCommands cfg info err manage pre s).counters := by
  obtain ⟨earlier, hearlier, hlen⟩ := processCommands_hkSent cfg info err manage pre s
  obtain ⟨later, hlater, -⟩ := processCommands_hkSent cfg info err manage post
    (processCommand cfg info err manage msg (processCommands cfg info err manage pre s))
  rw [processCommands_append]
  change (processCommands cfg info err manage post _).hkSent[_]? = _
  rw [hlater, processCommand_hkSent, if_pos hmsg, hearlier, ← hlen, ← List.length_append,
    List.append_assoc, List.getElem?_append_right (le_refl _), Nat.sub_self]
  simp

/-- A no-op command and a housekeeping request to VSC, with eight-bit counters: the report carries
the no-op alone. -/
theorem processCommands_report_noop :
    kind (vscConfig "" 1 2) ⟨0x18B1, 0⟩ = .housekeeping ∧
      (processCommands (vscConfig "" 1 2) 0 0 (fun t : Unit => (t, [])) ([⟨0x18B0, 1⟩] ++ [⟨0x18B1, 0⟩])
          (⟨⟨0, 0⟩, (), [], []⟩ : AppState 8 Unit)).hkSent[(⟨⟨0, 0⟩, (), [], []⟩ : AppState 8 Unit).hkSent.length +
            ([⟨0x18B0, 1⟩].map (kind (vscConfig "" 1 2))).count .housekeeping]? =
        some (processCommands (vscConfig "" 1 2) 0 0 (fun t : Unit => (t, [])) [⟨0x18B0, 1⟩]
          (⟨⟨0, 0⟩, (), [], []⟩ : AppState 8 Unit)).counters :=
  ⟨by decide, processCommands_report (vscConfig "" 1 2) 0 0 (fun t : Unit => (t, [])) [⟨0x18B0, 1⟩] []
    ⟨0x18B1, 0⟩ ⟨⟨0, 0⟩, (), [], []⟩ (by decide)⟩

/-! ## `*_Main` -/

/-- The command messages received before the first pipe read error. -/
def beforePipeError : List Received → List Message
  | [] => []
  | .message msg :: received => msg :: beforePipeError received
  | .pipeError :: _ => []

/-- The run loop handles the messages received before the first pipe read error, and no other. -/
theorem mainLoop_counters (received : List Received) (s : AppState w σ) :
    (mainLoop cfg info err manage received s).counters =
        (processCommands cfg info err manage (beforePipeError received) s).counters ∧
      (mainLoop cfg info err manage received s).hkSent =
        (processCommands cfg info err manage (beforePipeError received) s).hkSent := by
  induction received generalizing s with
  | nil => exact ⟨rfl, rfl⟩
  | cons r received ih =>
    cases r with
    | message msg => exact ih _
    | pipeError => exact ⟨rfl, rfl⟩

/-- After `*_Main` has run on any stream of received messages, `ctr_cmd_ok` holds the number of
commands that succeeded since the last `RESET_COUNTERS` (the reset included) and `ctr_cmd_error`
the number that failed, among the messages received before the first pipe read error, modulo
`2 ^ w`. -/
theorem appMain_counters (received : List Received) (s : AppState w σ) :
    let ks := (beforePipeError received).map (kind cfg)
    (appMain cfg info err manage true received s).counters.ctrCmdOk.toNat =
        ((if .resetCounters ∈ ks then 1 else 0) + (sinceReset ks).countP Kind.succeeds) % 2 ^ w ∧
      (appMain cfg info err manage true received s).counters.ctrCmdError.toNat =
        (sinceReset ks).countP (fun k => !k.succeeds) % 2 ^ w := by
  have hcount := foldl_count_toNat (⟨0, 0⟩ : Counters w) ((beforePipeError received).map (kind cfg))
  simp only [BitVec.ofNat_eq_ofNat, BitVec.toNat_ofNat, Nat.zero_mod, ite_self, Nat.zero_add]
    at hcount
  simpa only [appMain, if_true, (mainLoop_counters ..).1, processCommands_counters,
    appInit_counters] using hcount

/-- A bad command code, a housekeeping request, a pipe read error, then a no-op that is never
read. -/
example : (appMain (vscConfig "" 1 2) 0 0 (fun t : Unit => (t, [])) true
    [.message ⟨0x18B0, 7⟩, .message ⟨0x18B1, 0⟩, .pipeError, .message ⟨0x18B0, 1⟩]
    (⟨⟨5, 5⟩, (), [], []⟩ : AppState 8 Unit)).counters = ⟨1, 1⟩ := by decide

end Grunt.App
