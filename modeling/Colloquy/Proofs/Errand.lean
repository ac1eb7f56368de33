import Colloquy.Service

/-!
# What is asked of a service

A request is answered in two steps. First it is **read**: what its target stands for, whether that
may be asked in this way, and what its body says. All of this depends on the request alone, and what
comes of it is an **errand** (`Request.errand`). Only then the service is looked at, and the errand
is done (`Service.perform`). That the two steps together are all that happens is said once
(`Service.answer_eq`), and what comes of each errand is read off from it.

A request that cannot be read, and one that is about a session that is not there, change nothing at
all.
-/

namespace Colloquy

/-- What a request **asks for**, once it has been read. -/
inductive Errand where
  | health
  | opening (conversation : Option Conversation)
  | glance (id : String)
  | turn (id : String) (script : TurnScript)
deriving DecidableEq

/-- The session that an errand is about. -/
def Errand.id? : Errand → Option String
  | .health | .opening _ => none
  | .glance id | .turn id _ => some id

/-- Whether an errand does something, or only looks. -/
def Errand.isAction : Errand → Bool
  | .opening _ | .turn .. => true
  | .health | .glance _ => false

namespace Request

variable (request : Request)

/-- The errand of a request that has been found to be about something. -/
def errandAt : Route → Except Status Errand
  | .health => .ok .health
  | .newSession => return .opening (← request.read openingShape.codec)
  | .session name => return .glance (← Service.idOf name)
  | .turn name => do
    let id ← Service.idOf name
    let script ← request.read Wire.turnScript
    return .turn id script
  | .live name => do
    let _ ← Service.idOf name
    .error (if request.method = "GET" then .badRequest else .methodNotAllowed)

/-- The **errand** of a request, or the status that says why it cannot be read. -/
def errand : Except Status Errand :=
  match (Http.path? request.target).bind Route.ofPath with
  | none => .error .notFound
  | some route =>
    if route.allows request.method then request.errandAt route else .error .methodNotAllowed

/-- The response with a body, which is left out if only the status was asked for. -/
def shown (body : Json) : Response :=
  if request.method = "HEAD" then { status := .ok } else .ok body

end Request

/-! ### What is shown -/

namespace Request

variable {request : Request}

/-- What is got in two steps has been got in the first one. -/
theorem exists_of_bind {α β : Type} {x : Except Status α} {f : α → Except Status β} {b : β}
    (h : (x >>= f) = .ok b) : ∃ a, x = .ok a ∧ f a = .ok b := by
  cases x with
  | error status => cases h
  | ok a => exact ⟨a, rfl, h⟩

theorem isAction_errandAt {route : Route} {errand : Errand}
    (h : request.errandAt route = .ok errand) : errand.isAction = route.isAction := by
  cases route with
  | health =>
    cases h
    rfl
  | newSession =>
    obtain ⟨conversation, -, hopening⟩ := exists_of_bind h
    cases hopening
    rfl
  | session name =>
    obtain ⟨id, -, hglance⟩ := exists_of_bind h
    cases hglance
    rfl
  | turn name =>
    obtain ⟨id, -, h⟩ := exists_of_bind h
    obtain ⟨script, -, hturn⟩ := exists_of_bind h
    cases hturn
    rfl
  | live name =>
    obtain ⟨id, -, hlive⟩ := exists_of_bind h
    cases hlive

/-- What does something is asked by `POST`, so that it is answered with a body. -/
theorem shown_of_isAction {errand : Errand} (h : request.errand = .ok errand)
    (haction : errand.isAction = true) (body : Json) : request.shown body = .ok body := by
  rw [Request.errand] at h
  split at h
  · cases h
  · rename_i route _
    split at h
    · rename_i hallows
      rw [Route.allows, ← isAction_errandAt h, haction, if_pos rfl, decide_eq_true_eq] at hallows
      refine if_neg ?_
      rw [hallows]
      decide
    · cases h

end Request

namespace Service

variable (setup : Setup) (service : Service) (arrival : Arrival)

/-! ### Doing it -/

/-- **Does** an errand, in which a session that is opened gets this stamp: what is answered, and the
service after it. -/
def perform (stamp : Stamp) : Errand → Except Status (Json × Service)
  | .health => .ok (service.health setup, service)
  | .opening conversation => .ok (service.openSession stamp.name conversation)
  | .glance id =>
    match service.session? id with
    | some session => .ok (glance id session, service)
    | none => .error .notFound
  | .turn id script =>
    match service.session? id with
    | some session => .ok (service.runTurn setup id session script)
    | none => .error .notFound

/-- Reading a request and doing what it asks for is all that happens where its target leads. -/
theorem respond_eq (route : Route) :
    service.respond setup arrival route =
      (arrival.request.errandAt route).bind fun errand =>
        (service.perform setup arrival.stamp errand).map fun done => (.ok done.1, done.2) := by
  cases route with
  | health => rfl
  | newSession =>
    rw [respond, Request.errandAt]
    cases arrival.request.read openingShape.codec <;> rfl
  | session name =>
    rw [respond, Request.errandAt]
    cases idOf name with
    | error status => rfl
    | ok id =>
      dsimp only [bind, Except.bind, pure, Except.pure, perform]
      cases service.session? id <;> rfl
  | turn name =>
    rw [respond, Request.errandAt]
    cases idOf name with
    | error status => rfl
    | ok id =>
      cases arrival.request.read Wire.turnScript with
      | error status => rfl
      | ok script =>
        dsimp only [bind, Except.bind, pure, Except.pure, perform]
        cases service.session? id <;> rfl
  | live name =>
    rw [respond, Request.errandAt]
    cases idOf name <;> rfl

/-- **Answering a request** is reading it and doing what it asks for. -/
theorem answer_eq :
    service.answer setup arrival =
      match arrival.request.errand.bind (service.perform setup arrival.stamp) with
      | .ok (body, after) => (arrival.request.shown body, after)
      | .error status => ({ status }, service) := by
  have hresult : service.result setup arrival =
      (arrival.request.errand.bind (service.perform setup arrival.stamp)).map fun done =>
        (.ok done.1, done.2) := by
    rw [result, Request.errand]
    cases (Http.path? arrival.request.target).bind Route.ofPath with
    | none => rfl
    | some route =>
      dsimp only
      split
      · rw [respond_eq]
        cases arrival.request.errandAt route <;> rfl
      · rfl
  rw [answer, hresult]
  cases arrival.request.errand.bind (service.perform setup arrival.stamp) with
  | error status => rfl
  | ok done =>
    dsimp only [Except.map, Request.shown]
    split <;> rfl

/-! ### What comes of a request -/

variable {setup service arrival}

/-- A request that **cannot be read** changes nothing. -/
theorem answer_of_unread {status : Status} (h : arrival.request.errand = .error status) :
    service.answer setup arrival = ({ status }, service) := by
  rw [answer_eq, h]
  rfl

theorem answer_of_health (h : arrival.request.errand = .ok .health) :
    service.answer setup arrival = (arrival.request.shown (service.health setup), service) := by
  rw [answer_eq, h]
  rfl

theorem answer_of_opening {conversation : Option Conversation}
    (h : arrival.request.errand = .ok (.opening conversation)) :
    service.answer setup arrival =
      (.ok (service.openSession arrival.stamp.name conversation).1,
        (service.openSession arrival.stamp.name conversation).2) := by
  rw [answer_eq, ← Request.shown_of_isAction h rfl, h]
  rfl

/-- A request about a session that is **not there** changes nothing. -/
theorem answer_of_stranger {errand : Errand} {id : String}
    (h : arrival.request.errand = .ok errand) (hid : errand.id? = some id)
    (hsession : service.session? id = none) :
    service.answer setup arrival = ({ status := .notFound }, service) := by
  have hperform : service.perform setup arrival.stamp errand = .error .notFound := by
    cases errand with
    | health | opening => cases hid
    | glance | turn =>
      cases hid
      rw [perform, hsession]
  rw [answer_eq, h]
  dsimp only [Except.bind]
  rw [hperform]

variable {id : String} {session : Session}

theorem answer_of_glance (h : arrival.request.errand = .ok (.glance id))
    (hsession : service.session? id = some session) :
    service.answer setup arrival = (arrival.request.shown (glance id session), service) := by
  rw [answer_eq, h]
  dsimp only [Except.bind, perform]
  rw [hsession]

theorem answer_of_turn {script : TurnScript} (h : arrival.request.errand = .ok (.turn id script))
    (hsession : service.session? id = some session) :
    service.answer setup arrival =
      (.ok (service.runTurn setup id session script).1,
        (service.runTurn setup id session script).2) := by
  rw [answer_eq, ← Request.shown_of_isAction h rfl, h]
  dsimp only [Except.bind, perform]
  rw [hsession]

/-- **All that a request can change**: it opens a session, or it runs a turn of one that is there, or
everything stays as it was. -/
theorem answer_snd_cases (setup : Setup) (service : Service) (arrival : Arrival) :
    (∃ conversation, arrival.request.errand = .ok (.opening conversation) ∧
        (service.answer setup arrival).2 =
          (service.openSession arrival.stamp.name conversation).2) ∨
      (∃ id script session, arrival.request.errand = .ok (.turn id script) ∧
        service.session? id = some session ∧
        (service.answer setup arrival).2 = (service.runTurn setup id session script).2) ∨
      (∀ conversation, arrival.request.errand ≠ .ok (.opening conversation)) ∧
        (service.answer setup arrival).2 = service := by
  cases herrand : arrival.request.errand with
  | error status =>
    rw [answer_of_unread herrand]
    exact Or.inr (Or.inr ⟨by simp, rfl⟩)
  | ok errand =>
    cases errand with
    | health =>
      rw [answer_of_health herrand]
      exact Or.inr (Or.inr ⟨by simp, rfl⟩)
    | opening conversation =>
      rw [answer_of_opening herrand]
      exact Or.inl ⟨conversation, rfl, rfl⟩
    | glance id =>
      cases hsession : service.session? id with
      | none =>
        rw [answer_of_stranger herrand rfl hsession]
        exact Or.inr (Or.inr ⟨by simp, rfl⟩)
      | some session =>
        rw [answer_of_glance herrand hsession]
        exact Or.inr (Or.inr ⟨by simp, rfl⟩)
    | turn id script =>
      cases hsession : service.session? id with
      | none =>
        rw [answer_of_stranger herrand rfl hsession]
        exact Or.inr (Or.inr ⟨by simp, rfl⟩)
      | some session =>
        rw [answer_of_turn herrand hsession]
        exact Or.inr (Or.inl ⟨id, script, session, rfl, hsession, rfl⟩)

/-! ### The sessions that are kept -/

variable (service)

/-- A change of a session leaves the names. -/
theorem fst_setSession (id : String) (session : Session) (entry : String × Session) :
    (if entry.1 = id then (id, session) else entry).1 = entry.1 := by
  split
  · rename_i hentry
    exact hentry.symm
  · rfl

/-- After a change of a session it is what it has been changed to, and every other one is what it
was. -/
theorem session?_setSession (id : String) (session : Session) (other : String) :
    (service.setSession id session).session? other =
      if other = id then (service.session? id).map fun _ => session
      else service.session? other := by
  rw [session?, session?, session?, setSession]
  dsimp only
  rw [List.find?_map]
  simp only [Function.comp_def, fst_setSession]
  by_cases hid : other = id
  · rw [if_pos hid, hid, Option.map_map, Option.map_map]
    refine Option.map_congr fun entry hentry => ?_
    have hname := List.find?_some hentry
    rw [decide_eq_true_eq] at hname
    simp [hname]
  · rw [if_neg hid, Option.map_map]
    refine Option.map_congr fun entry hentry => ?_
    have hname := List.find?_some hentry
    rw [decide_eq_true_eq] at hname
    simp [hname, hid]

/-- The names of the sessions, the oldest first. -/
def names : List String := service.sessions.map Prod.fst

theorem session?_eq_none_iff (id : String) : service.session? id = none ↔ id ∉ service.names := by
  rw [session?, Option.map_eq_none_iff, List.find?_eq_none, names, List.mem_map]
  constructor
  · rintro hnone ⟨entry, hentry, rfl⟩
    exact hnone entry hentry (decide_eq_true rfl)
  · intro hnone entry hentry hname
    exact hnone ⟨entry, hentry, of_decide_eq_true hname⟩

theorem names_setSession (id : String) (session : Session) :
    (service.setSession id session).names = service.names := by
  rw [names, names, setSession, List.map_map]
  exact List.map_congr_left fun entry _ => fst_setSession id session entry

/-- What is under a name after a session has been put under one. -/
theorem session?_putSession (id : String) (session : Session) (other : String) :
    (service.putSession id session).session? other =
      if other = id then some session else service.session? other := by
  rw [putSession]
  cases hsession : service.session? id with
  | some _ =>
    rw [Option.isSome_some, if_pos rfl, session?_setSession, hsession]
    rfl
  | none =>
    rw [Option.isSome_none, if_neg (by decide)]
    by_cases hid : other = id
    · subst hid
      rw [session?, Option.map_eq_none_iff] at hsession
      rw [if_pos rfl, session?]
      dsimp only
      rw [List.find?_append, hsession, List.find?_cons_of_pos (by simp)]
      rfl
    · rw [if_neg hid, session?, session?]
      dsimp only
      rw [List.find?_append, List.find?_cons_of_neg (by simpa using Ne.symm hid), List.find?_nil,
        Option.or_none]

/-- A new name comes behind those that are there. -/
theorem names_putSession {id : String} (h : id ∉ service.names) (session : Session) :
    (service.putSession id session).names = service.names ++ [id] := by
  have hsession : service.session? id = none := (service.session?_eq_none_iff id).mpr h
  rw [putSession, hsession, Option.isSome_none, if_neg (by decide), names, List.map_append]
  rfl

end Service

end Colloquy
