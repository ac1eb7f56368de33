import Mathlib
import Colloquy.Proofs.Errand
import Colloquy.Proofs.Run

/-!
# Sessions do not notice each other

A service keeps any number of sessions, and requests about them come in any order. Still what is
answered about a session is what the session does **by itself**, in a run of nothing but the scripts
that were sent to it (`Service.Apart`): the reports of its turns, the events that they raise, and
what it is at a glance. Requests about other sessions, requests that only look, and requests that
are refused change nothing about it.

There is one thing that the service does and a run by itself does not: after each turn it takes the
event that the turn has raised. This cannot be seen later, since the next turn clears whatever event
is still waiting (`Session.runTurn_takeEvent`), and a glance does not show it. So the service holds
the session as it is by itself, with its event taken (`Service.Keeps`).

All this is as long as no name is **handed out** twice (`Service.handedOut`). A session that is opened
under the name of another one takes its place. It is enough that the count comes to no number twice,
whatever the clock shows (`Stamp.number_eq_of_name_eq`).
-/

namespace Colloquy

/-! ### What is told -/

theorem Json.Codec.write_option {α : Type} (codec : Json.Codec α) :
    (Json.Codec.option codec).write = fun o => o.elim .null codec.write := by
  funext o
  cases o <;> rfl

/-- A report as it is **told**, member by member. -/
def Report.told (r : Report) : Json :=
  let outcome (outcome : CommandOutcome) : Json := .object [("command", .string outcome.command),
    ("status", Wire.commandStatus.write outcome.status), ("value", .string outcome.value)]
  .object [
    ("turn", .number (.natural r.turn)),
    ("input", .string r.input),
    ("response", r.response.elim .null .string),
    ("output_type", r.outputKind.elim .null Wire.outputKind.write),
    ("fallback_kind", r.resolution.elim .null Wire.resolution.write),
    ("policy", r.owner.elim .null fun owner => .string owner.name),
    ("counter", .number (.natural r.counter.toUInt64)),
    ("fallback_state", .string r.stage.name),
    ("markup_slot", Wire.slot.write r.slot),
    ("reprompts", .number (.natural r.reprompts)),
    ("module", .string r.module),
    ("commands", .array (r.commands.map outcome)),
    ("aborted", .bool r.aborted)]

/-- So it is written. -/
theorem Report.write_eq_told (r : Report) : Wire.report.write r = r.told := by
  simp only [Wire.report, Wire.reportShape, Json.Shape.codec, List.map_cons, List.map_nil,
    Json.Codec.write_option]
  rfl

/-! ### Taking the event that is waiting -/

theorem Tracker.takeEvent_snd (t : Tracker) : t.takeEvent.2 = { t with eventPending := false } := by
  obtain ⟨_, _, _, _, _, _, _, _, _, _, _, _, eventPending, _⟩ := t
  cases eventPending <;> rfl

namespace Session

variable (setup : Setup) (s : Session)

theorem takeEvent_snd :
    s.takeEvent.2 = { s with tracker := { s.tracker with eventPending := false } } := by
  rw [takeEvent, ← s.tracker.takeEvent_snd]

/-- A turn does not notice that the event has been taken: it clears it in any case. -/
theorem runTurn_takeEvent (script : TurnScript) :
    s.takeEvent.2.runTurn setup script = s.runTurn setup script := by
  have hopen : s.takeEvent.2.openTurn setup script = s.openTurn setup script := by
    rw [takeEvent_snd, openTurn, openTurn]
    cases script.conversation <;> rfl
  rw [runTurn, runTurn, hopen]

/-- Neither does a glance show it. -/
theorem summary_takeEvent : s.takeEvent.2.summary = s.summary := by
  rw [takeEvent_snd]
  rfl

/-- A session as a glance **tells** of it: its name, and its summary member by member. -/
def told (s : Session) (id : String) : Json :=
  let prompt (prompt : Prompt) : Json := .object [("text", .string prompt.text),
    ("topic", .string prompt.topic), ("engine", Wire.promptSource.write prompt.source)]
  let reprompt (entry : Reprompt) : Json := .object [("module", .string entry.module),
    ("topic", .string entry.topic), ("text", .string entry.text)]
  .object [
    ("session_id", .string id),
    ("turns", .number (.natural s.turns)),
    ("policy", s.arbiter.owner?.elim .null fun owner => .string owner.name),
    ("counter", .number (.natural s.arbiter.escalation.counter.toUInt64)),
    ("fallback_state", .string s.arbiter.escalation.stage.name),
    ("markup_slot", Wire.slot.write s.tracker.slot),
    ("prev_module", .string s.tracker.prevModule),
    ("location", .object [("module", .string s.arbiter.place.module),
      ("content_id", .string s.arbiter.place.contentId),
      ("topic", .string s.arbiter.place.topic)]),
    ("reprompts", .array (s.tracker.queue.entries.map reprompt)),
    ("last_prompt", s.tracker.lastPrompt.elim .null prompt),
    ("conversation", .object [("phase", Wire.phase.write s.conversation.phase),
      ("interruptible", .bool s.conversation.interruptible)])]

theorem glance_eq_told (s : Session) (id : String) :
    Service.glance id s.takeEvent.2 = s.told id := by
  rw [Service.glance, summary_takeEvent]
  simp only [Wire.summary, Wire.summaryShape, Json.Shape.codec, List.map_cons, List.map_nil,
    Json.Codec.write_option]
  rfl

/-- A session as it is **opened**: new, with what the surroundings say first. -/
def opened (conversation : Option Conversation) : Session :=
  conversation.elim new new.setConversation

/-- No event is waiting in it. -/
theorem takeEvent_opened (conversation : Option Conversation) :
    (opened conversation).takeEvent.2 = opened conversation := by
  cases conversation <;> rfl

/-- A turn as it is **answered**: its report, and the event that it has raised. -/
def PastTurn.response (turn : PastTurn) : Response :=
  .ok (.object [("report", (turn.report setup).told),
    ("reprompt_event", (turn.after setup).takeEvent.1.elim .null Wire.input.write)])

end Session

/-! ### The scripts that are sent to a session -/

namespace Request

/-- The **script** that a request sends to a session, if it sends one to this session. -/
def scriptFor? (request : Request) (id : String) : Option TurnScript :=
  match request.errand with
  | .ok (.turn other script) => if other = id then some script else none
  | _ => none

variable {request : Request} {id : String}

theorem scriptFor?_eq_some {script : TurnScript} :
    request.scriptFor? id = some script ↔ request.errand = .ok (.turn id script) := by
  rw [scriptFor?]
  split
  · rename_i other script' h
    rw [h]
    simp
  · rename_i h
    simp
    exact h _ _

end Request

/-- The name that is **handed out** to a request, if it opens a session. -/
def Arrival.handsOut? (arrival : Arrival) : Option String :=
  match arrival.request.errand with
  | .ok (.opening _) => some arrival.stamp.name
  | _ => none

/-- **Names are told apart** by their numbers, which are the digits at their ends. -/
theorem Stamp.number_eq_of_name_eq {stamp stamp' : Stamp} (h : stamp.name = stamp'.name) :
    stamp.number = stamp'.number := by
  have hend (stamp : Stamp) : stamp.name.toList.reverse.takeWhile Char.isDigit =
      (toString stamp.number.toNat).toList.reverse := by
    have hdigits : (toString stamp.number.toNat).toList = Nat.toDigits 10 stamp.number.toNat :=
      Nat.toList_repr
    rw [name, String.toList_append, List.reverse_append, String.toList_append, List.reverse_append,
      List.takeWhile_append_of_pos]
    · exact List.append_nil _
    · intro c hc
      rw [List.mem_reverse, hdigits] at hc
      exact Nat.isDigit_of_mem_toDigits (by decide) (by decide) hc
  have hnumber := (hend stamp).symm.trans (h ▸ hend stamp')
  exact UInt64.toNat_inj.mp
    (Nat.repr_injective (String.toList_inj.mp (List.reverse_inj.mp hnumber)))

theorem Arrival.handsOut?_of_opening {arrival : Arrival} {conversation : Option Conversation}
    (h : arrival.request.errand = .ok (.opening conversation)) :
    arrival.handsOut? = some arrival.stamp.name := by
  rw [handsOut?, h]

theorem Arrival.handsOut?_of_not_opening {arrival : Arrival}
    (h : ∀ conversation, arrival.request.errand ≠ .ok (.opening conversation)) :
    arrival.handsOut? = none := by
  rw [handsOut?]
  split
  · rename_i conversation herrand
    exact absurd herrand (h conversation)
  · rfl

namespace Service

/-- The **names** that are handed out to requests, in their order. -/
def handedOut (arrivals : List Arrival) : List String := arrivals.filterMap Arrival.handsOut?

theorem handedOut_cons (arrival : Arrival) (rest : List Arrival) :
    handedOut (arrival :: rest) = arrival.handsOut?.toList ++ handedOut rest := by
  rw [handedOut, handedOut]
  cases hname : arrival.handsOut? with
  | none => exact List.filterMap_cons_none hname
  | some name => exact List.filterMap_cons_some hname

/-- The scripts that requests send to a session, in their order. -/
def scriptsFor (id : String) (arrivals : List Arrival) : List TurnScript :=
  arrivals.filterMap (·.request.scriptFor? id)

/-- The responses to those requests that send a script to a session, in their order. -/
def turnsAnswered (id : String) (answered : List (Arrival × Response)) : List Response :=
  answered.filterMap fun pair => (pair.1.request.scriptFor? id).map fun _ => pair.2

variable (setup : Setup) (service : Service)

/-- **Answers** requests, one after the other: each with its response, and the service after them. -/
def answers (service : Service) : List Arrival → List (Arrival × Response) × Service
  | [] => ([], service)
  | arrival :: rest =>
    let (response, service) := service.answer setup arrival
    let (answered, service) := answers service rest
    ((arrival, response) :: answered, service)

theorem answers_cons (arrival : Arrival) (rest : List Arrival) :
    service.answers setup (arrival :: rest) =
      ((arrival, (service.answer setup arrival).1) ::
          ((service.answer setup arrival).2.answers setup rest).1,
        ((service.answer setup arrival).2.answers setup rest).2) := rfl

/-- The service **keeps** a session under a name as it is by itself, with its event taken. -/
def Keeps (id : String) (s : Session) : Prop := service.session? id = some s.takeEvent.2

variable {setup service} {id : String} {s : Session} {arrival : Arrival}

/-- A session that is **opened** is kept under the name that is handed out. -/
theorem keeps_of_opening {conversation : Option Conversation}
    (h : arrival.request.errand = .ok (.opening conversation)) :
    (service.answer setup arrival).1 =
        .ok (.object [("session_id", .string arrival.stamp.name),
          ("websocket_url", .string ("/ws/" ++ arrival.stamp.name))]) ∧
      (service.answer setup arrival).2.Keeps arrival.stamp.name (Session.opened conversation) := by
  rw [answer_of_opening h]
  refine ⟨rfl, ?_⟩
  rw [openSession, Keeps, session?_putSession, if_pos rfl, Session.takeEvent_opened, Session.opened]

/-- **A script that is sent to the session** is answered with what it does to the session by itself,
and leaves the session as it is by itself. -/
theorem keeps_of_script (h : service.Keeps id s) {script : TurnScript}
    (hscript : arrival.request.scriptFor? id = some script) :
    (service.answer setup arrival).1 = Session.PastTurn.response setup ⟨s, script⟩ ∧
      (service.answer setup arrival).2.Keeps id (s.runTurn setup script).2 := by
  have hturn : service.answer setup arrival =
      (.ok (service.runTurn setup id s.takeEvent.2 script).1,
        (service.runTurn setup id s.takeEvent.2 script).2) :=
    answer_of_turn (Request.scriptFor?_eq_some.mp hscript) h
  rw [hturn, runTurn, Session.runTurn_takeEvent]
  refine ⟨?_, ?_⟩
  · rw [Session.PastTurn.response, ← Report.write_eq_told, Json.Codec.write_option]
    rfl
  · rw [Keeps, session?_setSession, if_pos rfl, h]
    rfl

/-- **Any other request** leaves the session as it is, unless its name is handed out again. -/
theorem keeps_of_other (h : service.Keeps id s) (hname : id ∉ arrival.handsOut?)
    (hscript : arrival.request.scriptFor? id = none) :
    (service.answer setup arrival).2.Keeps id s := by
  rcases service.answer_snd_cases setup arrival with
    ⟨conversation, herrand, hanswer⟩ | ⟨other, script, session, herrand, -, hanswer⟩ | ⟨-, hanswer⟩
  · -- a session under another name
    rw [Arrival.handsOut?_of_opening herrand, Option.mem_some_iff] at hname
    rw [hanswer, openSession, Keeps, session?_putSession, if_neg (Ne.symm hname)]
    exact h
  · -- a turn of another session
    have hne : id ≠ other := by
      rintro rfl
      rw [Request.scriptFor?_eq_some.mpr herrand] at hscript
      cases hscript
    rw [hanswer, runTurn, Keeps, session?_setSession, if_neg hne]
    exact h
  · rw [hanswer]
    exact h

/-! ### Whole runs -/

variable (setup) in
/-- **However the requests come**, the session is kept as it is by itself after the scripts that were
sent to it, and these are answered with what its turns report and raise. -/
theorem keeps_answers (h : service.Keeps id s) {arrivals : List Arrival}
    (hname : id ∉ handedOut arrivals) :
    (service.answers setup arrivals).2.Keeps id (s.runTurns setup (scriptsFor id arrivals)).2 ∧
      turnsAnswered id (service.answers setup arrivals).1 =
        (s.turnsOf setup (scriptsFor id arrivals)).map (Session.PastTurn.response setup) := by
  induction arrivals generalizing service s with
  | nil => exact ⟨h, rfl⟩
  | cons arrival rest ih =>
    have hrun := service.answers_cons setup arrival rest
    rw [handedOut_cons, List.mem_append, Option.mem_toList, not_or] at hname
    obtain ⟨hhere, hrest⟩ := hname
    cases hscript : arrival.request.scriptFor? id with
    | none =>
      obtain ⟨hkeeps, hanswered⟩ := ih (keeps_of_other h hhere hscript) hrest
      have hscripts : scriptsFor id (arrival :: rest) = scriptsFor id rest :=
        List.filterMap_cons_none hscript
      rw [hrun, hscripts]
      refine ⟨hkeeps, Eq.trans (List.filterMap_cons_none ?_) hanswered⟩
      rw [hscript]
      rfl
    | some script =>
      obtain ⟨hresponse, hturn⟩ := keeps_of_script h hscript
      obtain ⟨hkeeps, hanswered⟩ := ih hturn hrest
      have hscripts : scriptsFor id (arrival :: rest) = script :: scriptsFor id rest :=
        List.filterMap_cons_some hscript
      rw [hrun, hscripts]
      refine ⟨hkeeps, Eq.trans (List.filterMap_cons_some ?_) (congrArg _ hanswered)⟩
      dsimp only
      rw [hscript, hresponse]
      rfl

/-! ### The names that are handed out -/

/-- **One request** adds the name that is handed out to it, if that is a new one. -/
theorem names_answer (h : ∀ id ∈ arrival.handsOut?, id ∉ service.names) :
    (service.answer setup arrival).2.names = service.names ++ arrival.handsOut?.toList := by
  rcases service.answer_snd_cases setup arrival with
    ⟨conversation, herrand, hanswer⟩ | ⟨id, script, session, herrand, -, hanswer⟩ | ⟨hnot, hanswer⟩
  · rw [Arrival.handsOut?_of_opening herrand] at h ⊢
    rw [hanswer, openSession, names_putSession service (h _ rfl)]
    rfl
  · rw [hanswer, Arrival.handsOut?_of_not_opening (by simp [herrand]), Option.toList_none,
      List.append_nil]
    exact service.names_setSession id _
  · rw [hanswer, Arrival.handsOut?_of_not_opening hnot, Option.toList_none, List.append_nil]

variable (setup) in
/-- The sessions are **named** as the names have been handed out, if these are distinct. -/
theorem names_answers {arrivals : List Arrival}
    (h : (service.names ++ handedOut arrivals).Nodup) :
    (service.answers setup arrivals).2.names = service.names ++ handedOut arrivals := by
  induction arrivals generalizing service with
  | nil => exact (List.append_nil _).symm
  | cons arrival rest ih =>
    rw [handedOut_cons, ← List.append_assoc] at h ⊢
    have hanswer : (service.answer setup arrival).2.names =
        service.names ++ arrival.handsOut?.toList := by
      refine names_answer fun id hid hmem => ?_
      exact List.disjoint_of_nodup_append h.of_append_left hmem (Option.mem_toList.mpr hid)
    rw [answers_cons, ← hanswer]
    rw [← hanswer] at h
    exact ih h

/-! ### What is answered -/

/-- A session is kept **apart**: from here on, as long as its name is not handed out again, what is
answered about it is what it does by itself, in a run of nothing but the scripts that are sent to
it. -/
structure Apart (setup : Setup) (service : Service) (id : String) (s : Session) : Prop where
  /-- Its turns are answered with what they report and the events that they raise by themselves. -/
  turns (arrivals : List Arrival) (hname : id ∉ handedOut arrivals) :
    turnsAnswered id (service.answers setup arrivals).1 =
      (s.turnsOf setup (scriptsFor id arrivals)).map (Session.PastTurn.response setup)
  /-- Whenever it is looked at, it is told of as it is by itself, and nothing is changed. -/
  looks (arrivals : List Arrival) (hname : id ∉ handedOut arrivals) (arrival : Arrival)
      (h : arrival.request.errand = .ok (.glance id)) :
    (service.answers setup arrivals).2.answer setup arrival =
      (arrival.request.shown ((s.runTurns setup (scriptsFor id arrivals)).2.told id),
        (service.answers setup arrivals).2)

theorem Keeps.apart (h : service.Keeps id s) : service.Apart setup id s where
  turns arrivals hname := (keeps_answers setup h hname).2
  looks arrivals hname arrival herrand := by
    have hkeeps := (keeps_answers setup h hname).1
    rw [answer_of_glance herrand hkeeps, Session.glance_eq_told]

/-- What a service that has handed out these names **answers** to whatever comes next. -/
structure Faithful (setup : Setup) (service : Service) (names : List String) : Prop where
  /-- A session that is opened gets the name that is handed out, and is kept apart. -/
  opening (arrival : Arrival) (conversation : Option Conversation)
    (h : arrival.request.errand = .ok (.opening conversation)) :
    (service.answer setup arrival).1 =
        .ok (.object [("session_id", .string arrival.stamp.name),
          ("websocket_url", .string ("/ws/" ++ arrival.stamp.name))]) ∧
      (service.answer setup arrival).2.Apart setup arrival.stamp.name
        (Session.opened conversation)
  /-- The sessions that have been opened are counted, and nothing is changed. -/
  health (arrival : Arrival) (h : arrival.request.errand = .ok .health) :
    service.answer setup arrival =
      (arrival.request.shown (.object [("status", .string "ok"),
        ("version", .string Program.version), ("sessions_active", .ofNat names.length),
        ("fallback_enabled", .bool setup.settings.arbiter.enabled)]), service)
  /-- What is asked about a session that has not been opened is not found, and changes nothing. -/
  stranger (arrival : Arrival) (errand : Errand) (id : String)
    (h : arrival.request.errand = .ok errand) (hid : errand.id? = some id) (hname : id ∉ names) :
    service.answer setup arrival = ({ status := .notFound }, service)
  /-- A request that cannot be read changes nothing. -/
  unread (arrival : Arrival) (status : Status) (h : arrival.request.errand = .error status) :
    service.answer setup arrival = ({ status }, service)

/-- **Sessions do not notice each other**, whatever requests have come in whatever order, if the names
that have been handed out are distinct. -/
theorem faithful_answers (setup : Setup) (arrivals : List Arrival)
    (h : (handedOut arrivals).Nodup) :
    Faithful setup (({} : Service).answers setup arrivals).2 (handedOut arrivals) := by
  have hnames : (({} : Service).answers setup arrivals).2.names = handedOut arrivals :=
    names_answers setup h
  constructor
  case opening =>
    intro arrival conversation herrand
    obtain ⟨hresponse, hkeeps⟩ := keeps_of_opening herrand
    exact ⟨hresponse, hkeeps.apart⟩
  case health =>
    intro arrival herrand
    rw [answer_of_health herrand, Service.health, ← hnames, names, List.length_map]
  case stranger =>
    intro arrival errand id herrand hid hname
    refine answer_of_stranger herrand hid ?_
    rw [session?_eq_none_iff, hnames]
    exact hname
  case unread =>
    intro arrival status herrand
    exact answer_of_unread herrand

/-- A request for a session, and the stamp that it gets. -/
def opening (stamp : Stamp) (body : String) : Arrival where
  stamp
  request := {
    method := "POST"
    target := "/session/new"
    contentType := some "application/json"
    body }

/-- A request that posts a body to a session. -/
def posting (id body : String) : Arrival where
  stamp := default
  request := {
    method := "POST"
    target := "/session/" ++ id ++ "/turn"
    contentType := some "application/json"
    body }

/-- A request that only looks. -/
def looking (target : String) : Arrival where
  stamp := default
  request := { method := "GET", target }

/-- Two sessions are opened, the first one asleep, and each of them is sent a turn. The second one is
not given the name of the first, which is told of as it is by itself; and two sessions are
counted. -/
theorem faithful_answers_glance :
    let first : Stamp := { clock := 26, number := 0 }
    let second : Stamp := { clock := 26, number := 1 }
    let turn := "\x7b\"input\":\x7b\"kind\":\"speech\",\"text\":\"blorp\"\x7d\x7d"
    let asleep := opening first "\x7b\"state\":\x7b\"phase\":\"sleep\"\x7d\x7d"
    let service := (({} : Service).answer {} asleep).2
    let arrivals := [opening second "\x7b\x7d", posting second.name turn, posting first.name turn]
    let later := (service.answers {} arrivals).2
    turnsAnswered first.name (service.answers {} arrivals).1 =
        [Session.PastTurn.response {}
          ⟨Session.new.setConversation { phase := .sleep }, { input := .speech "blorp" }⟩] ∧
      (later.answer {} (looking "/session/session_1a_0")).1.body.map Json.text =
        some ("\x7b\"session_id\":\"session_1a_0\",\"turns\":1,\"policy\":\"DEFAULT\"," ++
          "\"counter\":0,\"fallback_state\":\"INITIAL\",\"markup_slot\":\"Slot0\"," ++
          "\"prev_module\":\"\",\"location\":\x7b\"module\":\"\",\"content_id\":\"\"," ++
          "\"topic\":\"\"\x7d,\"reprompts\":[],\"last_prompt\":null,\"conversation\":" ++
          "\x7b\"phase\":\"sleep\",\"interruptible\":false\x7d\x7d") ∧
      (later.answer {} (looking "/health")).1.body.map Json.text =
        some ("\x7b\"status\":\"ok\",\"version\":\"1.0.0\",\"sessions_active\":2," ++
          "\"fallback_enabled\":true\x7d") := by
  intro first second turn asleep service arrivals later
  have hnew : Faithful {} {} [] := faithful_answers {} [] List.nodup_nil
  have hopening : asleep.request.errand = .ok (.opening (some { phase := .sleep })) := by
    decide +kernel
  have hapart : service.Apart {} first.name (Session.opened (some { phase := .sleep })) :=
    (hnew.opening asleep _ hopening).2
  have hnames : handedOut (asleep :: arrivals) = [first.name, second.name] := by decide +kernel
  have hdistinct : first.name ≠ second.name := fun heq =>
    absurd (Stamp.number_eq_of_name_eq heq) (by decide)
  have hlater : Faithful {} later [first.name, second.name] := by
    have h := faithful_answers {} (asleep :: arrivals) (by rw [hnames]; simpa using hdistinct)
    rwa [hnames] at h
  have hname : first.name ∉ handedOut arrivals := by
    have hnamed : handedOut arrivals = [second.name] := by decide +kernel
    rw [hnamed]
    simpa using hdistinct
  have hscripts : scriptsFor first.name arrivals = [{ input := .speech "blorp" }] := by
    decide +kernel
  have hlooking :
      (looking "/session/session_1a_0").request.errand = .ok (.glance first.name) := by
    decide +kernel
  have hhealth : (looking "/health").request.errand = .ok .health := by decide +kernel
  have hturns := hapart.turns arrivals hname
  have hlooks := hapart.looks arrivals hname _ hlooking
  rw [hscripts] at hturns hlooks
  refine ⟨hturns, ?_, ?_⟩
  · rw [hlooks]
    decide +kernel
  · rw [hlater.health _ hhealth]
    decide +kernel

end Service

end Colloquy
