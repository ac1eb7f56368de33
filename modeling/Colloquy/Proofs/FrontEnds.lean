import Mathlib
import Colloquy.CommandLine
import Colloquy.Proofs.Isolation
import Colloquy.Proofs.RoundTrip

/-!
# Three ways in

Turns come in by three ways: a script is replayed, lines are read from the standard input, and
requests are posted to a session of a service. Each of them cuts its input up and looks at it in its
own way. Replaying takes the blanks off each line and passes over comments; a conversation takes the
blanks off as well, looks whether the user ends it, and takes for an utterance whatever does not begin
with a brace; a service reads the body as it comes and minds nothing that follows the turn.

Where every line holds one turn as a JSON object (`Writes`), all this comes to the same. The text of
an object begins with a brace and ends with one, so that the blanks that are taken off are the ones
that JSON allows around it (`Writes.trim`), and nothing else is mistaken for a turn or passed over.
The same turns are run, then, from a new session on, and each is followed by the event that it has
raised (`scripts_run_alike`). Every list of turns can be written so, whatever its texts are
(`writes_written`).

There is one thing in which they differ. A line may be of any length at the console, but a service
reads no body that is longer than two mebibytes. A turn whose rules are longer than that can be
replayed, and cannot be posted (`longScript_not_served`).
-/

namespace Colloquy

open Json (Draft)

/-! ### Blanks around a line -/

namespace Text

theorem isBlank_of_isSpace {c : Char} (h : Draft.isSpace c = true) : isBlank c = true := by
  simp only [Draft.isSpace, Bool.or_eq_true, decide_eq_true_eq] at h
  rcases h with ((rfl | rfl) | rfl) | rfl <;> decide

theorem dropWhile_isBlank_append {w : List Char} (hw : Draft.Blanks w) {c : Char}
    (hc : isBlank c = false) (s : List Char) : (w ++ c :: s).dropWhile isBlank = c :: s := by
  rw [List.dropWhile_append_of_pos fun d hd => isBlank_of_isSpace (hw d hd)]
  exact List.dropWhile_cons_of_neg (by simp [hc])

/-- Of a text between blanks that begins and ends with no blank, the blanks are taken off. -/
theorem trimChars_of_blanks {w r q : List Char} {c d : Char} (hw : Draft.Blanks w)
    (hr : Draft.Blanks r) (hc : isBlank c = false) (hd : isBlank d = false) :
    trimChars (w ++ (c :: (q ++ [d]) ++ r)) = c :: (q ++ [d]) := by
  have hreverse : Draft.Blanks r.reverse := fun e he => hr e (List.mem_reverse.mp he)
  rw [trimChars, List.cons_append, dropWhile_isBlank_append hw hc]
  have hback : (c :: (q ++ [d] ++ r)).reverse = r.reverse ++ d :: (c :: q).reverse := by simp
  rw [hback, dropWhile_isBlank_append hreverse hd]
  simp

end Text

/-! ### Lines -/

namespace Text

theorem pieces_ne_nil (mark : Char) (s : List Char) : pieces mark s ≠ [] := by
  cases s with
  | nil => simp [pieces]
  | cons c s =>
    rw [pieces]
    split
    · simp
    · split <;> simp

/-- A piece goes up to the first mark. -/
theorem pieces_append {mark : Char} {p : List Char} (h : mark ∉ p) (s : List Char) :
    pieces mark (p ++ mark :: s) = p :: pieces mark s := by
  induction p with
  | nil => rw [List.nil_append, pieces, if_pos rfl]
  | cons c p ih =>
    obtain ⟨hc, hp⟩ : mark ≠ c ∧ mark ∉ p := by simpa using h
    rw [List.cons_append, pieces, if_neg (Ne.symm hc), ih hp]

/-- A line that ends with a line feed is the first of the lines. -/
theorem lines_append {line : String} (h : '\n' ∉ line.toList) (text : String) :
    lines (Console.line line ++ text) = line :: lines text := by
  have hpieces : pieces '\n' (Console.line line ++ text).toList =
      line.toList :: pieces '\n' text.toList := by
    rw [Console.line, String.toList_append, String.toList_append, List.append_assoc]
    exact pieces_append h text.toList
  obtain ⟨piece, more, hmore⟩ := List.exists_cons_of_ne_nil (pieces_ne_nil '\n' text.toList)
  rw [lines, lines, hpieces, hmore, List.getLast?_cons_cons]
  split
  · rw [List.dropLast_cons_cons, List.map_cons, String.ofList_toList]
  · rw [List.map_cons, String.ofList_toList]

end Text

/-! ### Lines that write turns -/

/-- A line **writes** a turn: it holds it as a JSON object, and nothing else but blanks. -/
structure Writes (line : String) (script : TurnScript) : Prop where
  object : (Draft.skipSpace line.toList).head? = some '{'
  text : Wire.turnScript.ofText line = .ok script

namespace Writes

variable {line : String} {script : TurnScript} (h : Writes line script)
include h

/-- **Taking blanks off** a line that writes a turn leaves the object, which begins with a brace. -/
theorem trim : (Text.trim line).toList.head? = some '{' ∧
    Wire.turnScript.ofText (Text.trim line) = .ok script := by
  obtain ⟨members, w, p, r, hp, hw, hr, hline⟩ := Json.Shape.exists_spells_of_ofText h.object h.text
  have hread := Wire.turnScript.ofText_of_spells hp hw hr hline
  obtain ⟨q, rfl⟩ := hp.closed_object
  have htrim : (Text.trim line).toList = '{' :: (q ++ ['}']) := by
    rw [Text.toList_trim, hline]
    exact Text.trimChars_of_blanks hw hr (by decide) (by decide)
  rw [Wire.turnScript.ofText_of_spells hp Draft.blanks_nil Draft.blanks_nil (by simp [htrim]),
    ← hread, htrim]
  exact ⟨rfl, h.text⟩

/-- A conversation takes the line for that turn. -/
theorem ofLine : Console.Entry.ofLine line = .turn script := by
  obtain ⟨hhead, hread⟩ := h.trim
  obtain ⟨s, hs⟩ := List.head?_eq_some_iff.mp hhead
  have hempty : Text.trim line ≠ "" := by
    intro hline
    rw [hline] at hs
    cases hs
  have hword : ¬ ((Text.trim line).toList.map Char.toLower = ['q', 'u', 'i', 't'] ∨
      (Text.trim line).toList.map Char.toLower = ['e', 'x', 'i', 't']) := by
    rw [hs]
    rintro (hquit | hexit)
    · exact absurd (List.cons.inj hquit).1 (by decide)
    · exact absurd (List.cons.inj hexit).1 (by decide)
  rw [Console.Entry.ofLine, if_neg hword, if_neg hempty, if_pos hhead, hread]

/-- A written script has the line among its turns. -/
theorem isTurn : Script.isTurn (Text.trim line) = true := by
  obtain ⟨s, hs⟩ := List.head?_eq_some_iff.mp h.trim.1
  have hempty : Text.trim line ≠ "" := by
    intro hline
    rw [hline] at hs
    cases hs
  simp [Script.isTurn, hempty, hs]

end Writes

/-- **Every turn** is written by its text. -/
theorem writes_text (script : TurnScript) : Writes (Wire.turnScript.write script).text script where
  object := by
    obtain ⟨s, hs⟩ : ∃ s, (Wire.turnScript.write script).text.toList = '{' :: s :=
      ⟨_, String.toList_ofList⟩
    rw [hs, Draft.skipSpace_cons (by decide)]
    rfl
  text := Wire.turnScript_faithful.ofText script

/-- Turns as they are **written**, one to a line. -/
def written (scripts : List TurnScript) : String :=
  scripts.foldr (fun script text => Console.line (Wire.turnScript.write script).text ++ text) ""

/-- The text of a turn takes **one line**. -/
theorem not_mem_text (script : TurnScript) :
    '\n' ∉ (Wire.turnScript.write script).text.toList := by
  rw [Json.text, String.toList_ofList]
  exact (Wire.turnScript_faithful.spelled script).onOneLine

theorem writes_written (scripts : List TurnScript) :
    List.Forall₂ Writes (Text.lines (written scripts)) scripts := by
  induction scripts with
  | nil => exact .nil
  | cons script rest ih =>
    rw [written, List.foldr_cons, Text.lines_append (not_mem_text script)]
    exact .cons (writes_text script) ih

variable {lines : List String} {scripts : List TurnScript}

/-- A written script has those turns that its lines write. -/
theorem Script.ofText_of_writes {text : String}
    (h : List.Forall₂ Writes (Text.lines text) scripts) : ofText text = .ok scripts := by
  rw [ofText, turnLines]
  generalize Text.lines text = lines at h
  induction h with
  | nil => rfl
  | cons hline _ ih =>
    rw [List.map_cons, List.filter_cons_of_pos hline.isTurn, List.mapM_cons, hline.trim.2, ih]
    rfl

/-! ### What is printed -/

open Session (PastTurn)

/-- A turn as it is **printed** as JSON: its report, and on a line of its own the event that it has
raised. -/
def Session.PastTurn.printed (setup : Setup) (turn : PastTurn) : String :=
  Console.line (turn.report setup).told.text ++
    (turn.after setup).takeEvent.1.elim "" fun event =>
      Console.line (Wire.input.write event).text

/-- Turns as they are printed, one after the other. -/
def printed (setup : Setup) (turns : List PastTurn) : String :=
  turns.foldr (fun turn text => turn.printed setup ++ text) ""

namespace Console

variable {setup : Setup} {format : Format} (hformat : format.json = true)
include hformat

/-- A turn is run in a session whose event has been taken as in any other. -/
theorem runTurn_takeEvent (s : Session) (script : TurnScript) :
    runTurn setup format s.takeEvent.2 script =
      (PastTurn.printed setup ⟨s, script⟩, (s.runTurn setup script).2.takeEvent.2) := by
  have hreport (report : Report) : reportText format report = line report.told.text := by
    rw [← report.write_eq_told]
    exact if_pos hformat
  have hevent : eventText format = fun event => line (Wire.input.write event).text :=
    funext fun event => if_pos hformat
  rw [runTurn, s.runTurn_takeEvent, PastTurn.printed, ← hreport, ← hevent]
  rfl

theorem replay_takeEvent (s : Session) (scripts : List TurnScript) :
    replay setup format s.takeEvent.2 scripts = printed setup (s.turnsOf setup scripts) := by
  induction scripts generalizing s with
  | nil => rfl
  | cons script rest ih =>
    rw [replay, runTurn_takeEvent hformat]
    dsimp only
    rw [ih]
    rfl

theorem converse_takeEvent (h : List.Forall₂ Writes lines scripts) (s : Session) :
    converse setup format s.takeEvent.2 lines = printed setup (s.turnsOf setup scripts) := by
  have hcue : cue format = "" := if_pos hformat
  induction h generalizing s with
  | nil =>
    rw [converse, hcue]
    rfl
  | cons hline _ ih =>
    rw [converse, answer, hline.ofLine]
    dsimp only
    rw [runTurn_takeEvent hformat]
    dsimp only
    rw [ih, hcue, String.empty_append]
    rfl

end Console

/-! ### The command line -/

namespace CommandLine

/-- The files hold the **settings and the catalog** that the options name, where they name any. -/
structure Options.Sets (files : String → Option String) (o : Options) (setup : Setup) : Prop where
  settings : (o.settings.elim (.ok {}) fun path =>
    load files "Config error" path Wire.settings.ofText) = .ok setup.settings
  catalog : (o.catalog.elim (.ok {}) fun path =>
    load files "Catalog error" path Wire.catalog.ofText) = .ok setup.catalog

/-- The arguments **ask for** reports as JSON, with this setup, of a script in a file or of what comes
in. -/
def Asks (files : String → Option String) (arguments : List String) (setup : Setup)
    (script : Option String) : Prop :=
  ∃ options, parse arguments = .ok options ∧ options.json = true ∧ options.serve = false ∧
    options.script = script ∧ options.Sets files setup

variable {files : String → Option String} {arguments : List String} {setup : Setup}

theorem run_of_script {path text : String} (h : Asks files arguments setup (some path))
    (hfile : files path = some text) (hscripts : Script.ofText text = .ok scripts)
    (input : String) :
    run files arguments input = { output := printed setup (Session.new.turnsOf setup scripts) } := by
  obtain ⟨options, hparse, hjson, hserve, hscript, hsettings, hcatalog⟩ := h
  have hload : load files "Invalid script" path Script.ofText = .ok scripts := by
    rw [load, hfile]
    dsimp only
    rw [hscripts]
    rfl
  have hprepare : prepare files options = .ok (setup, .replay scripts) := by
    rw [prepare, hsettings, hcatalog, hserve, hscript]
    dsimp only [bind, Except.bind]
    rw [hload]
    rfl
  rw [run, hparse]
  dsimp only
  rw [hprepare]
  exact congrArg (Result.mk 0 · "") (Console.replay_takeEvent hjson .new scripts)

theorem run_of_lines {text : String} (h : Asks files arguments setup none)
    (hwrites : List.Forall₂ Writes (Text.lines text) scripts) :
    run files arguments text = { output := printed setup (Session.new.turnsOf setup scripts) } := by
  obtain ⟨options, hparse, hjson, hserve, hscript, hsettings, hcatalog⟩ := h
  have hprepare : prepare files options = .ok (setup, .converse) := by
    rw [prepare, hsettings, hcatalog, hserve, hscript]
    rfl
  have hgreeting : Console.greeting (options.format false) = "" := if_pos hjson
  rw [run, hparse]
  dsimp only
  rw [hprepare]
  dsimp only
  rw [hgreeting, String.empty_append]
  exact congrArg (Result.mk 0 · "") (Console.converse_takeEvent hjson hwrites .new)

end CommandLine

/-! ### The service -/

/-- A request **posts** a line to the session of this name. -/
structure Request.Posts (id : String) (request : Request) (line : String) : Prop where
  method : request.method = "POST"
  target : ∃ name, (Http.path? request.target).bind Route.ofPath = some (.turn name) ∧
    Service.idOf name = .ok id
  declared : request.contentType.any declaresJson = true
  body : request.body = line

namespace Request.Posts

variable {id line : String} {request : Request} (h : request.Posts id line)
include h

theorem errand : request.errand = (request.read Wire.turnScript).map (.turn id) := by
  obtain ⟨name, hroute, hid⟩ := h.target
  have hallows : Route.allows (.turn name) request.method = true := decide_eq_true h.method
  rw [Request.errand, hroute]
  dsimp only
  rw [if_pos hallows, errandAt, hid]
  cases request.read Wire.turnScript <;> rfl

/-- Posting a line that writes a turn, and is not too long, sends that turn. -/
theorem scriptFor? {script : TurnScript} (hsize : line.utf8ByteSize ≤ bodyLimit)
    (hwrites : Writes line script) : request.scriptFor? id = some script := by
  have hread : request.read Wire.turnScript = .ok script := by
    rw [read, if_pos h.declared, h.body, if_pos hsize, Json.Codec.ofHead_of_ofText hwrites.text]
    rfl
  rw [scriptFor?_eq_some, h.errand, hread]
  rfl

/-- A line that is **too long** is not read. -/
theorem errand_of_long (hsize : bodyLimit < line.utf8ByteSize) :
    request.errand = .error .contentTooLarge := by
  rw [h.errand, read, if_pos h.declared, h.body, if_neg (Nat.not_le.mpr hsize)]
  rfl

end Request.Posts

namespace Service

variable {setup : Setup} {service : Service} {id : String} {s : Session}

/-- The lines that are posted to a session are answered with the turns that they write, if none of
them is too long. -/
theorem answers_of_posts (h : service.Keeps id s) {posts : List Arrival}
    (hposts : List.Forall₂ (fun post line => post.request.Posts id line) posts lines)
    (hsize : ∀ line ∈ lines, line.utf8ByteSize ≤ Request.bodyLimit)
    (hwrites : List.Forall₂ Writes lines scripts) :
    (service.answers setup posts).1.map Prod.snd =
      (s.turnsOf setup scripts).map (PastTurn.response setup) := by
  induction hposts generalizing service s scripts with
  | nil =>
    cases hwrites
    rfl
  | cons hpost _ ih =>
    cases hwrites with
    | cons hline hrest =>
      rw [List.forall_mem_cons] at hsize
      have hscript := hpost.scriptFor? hsize.1 hline
      rw [answers_cons, List.map_cons, (keeps_of_script h hscript).1,
        ih (keeps_of_script h hscript).2 hsize.2 hrest]
      rfl

end Service

/-! ### All three -/

/-- A text is **replayed** from a file as these turns. -/
def CommandLine.Replays (setup : Setup) (text : String) (turns : List PastTurn) : Prop :=
  ∀ files arguments path input, Asks files arguments setup (some path) → files path = some text →
    run files arguments input = { output := printed setup turns }

/-- A text is **read** from the standard input as these turns. -/
def CommandLine.Converses (setup : Setup) (text : String) (turns : List PastTurn) : Prop :=
  ∀ files arguments, Asks files arguments setup none →
    run files arguments text = { output := printed setup turns }

/-- A text is **served** as these turns: whatever the service has been asked before, its lines are
answered so if they are posted, one after the other, to a session that has just been opened. -/
def Service.Serves (setup : Setup) (text : String) (turns : List PastTurn) : Prop :=
  ∀ before opening, opening.request.errand = .ok (.opening none) →
    ∃ opened, ((({} : Service).answers setup before).2).answer setup opening =
        (.ok (.object [("session_id", .string opening.stamp.name),
          ("websocket_url", .string ("/ws/" ++ opening.stamp.name))]), opened) ∧
      ∀ posts, List.Forall₂ (fun post line => post.request.Posts opening.stamp.name line) posts
          (Text.lines text) →
        (opened.answers setup posts).1.map Prod.snd = turns.map (PastTurn.response setup)

/-- **Turns are run alike whichever way they come in.** Any list of turns can be written one to a
line, as its text does. However they are written, the text is replayed from a file, read from the
standard input, or posted line by line to a session that has just been opened. The first two print,
and the third answers, the same reports, each with the event that the turn has raised. Only a line of
more than two mebibytes is not read when it is posted, and then nothing is changed. -/
theorem scripts_run_alike (setup : Setup) (scripts : List TurnScript) :
    List.Forall₂ Writes (Text.lines (written scripts)) scripts ∧
      ∀ text, List.Forall₂ Writes (Text.lines text) scripts →
        CommandLine.Replays setup text (Session.new.turnsOf setup scripts) ∧
        CommandLine.Converses setup text (Session.new.turnsOf setup scripts) ∧
        ((∀ line ∈ Text.lines text, line.utf8ByteSize ≤ 2 * 1024 * 1024) →
          Service.Serves setup text (Session.new.turnsOf setup scripts)) ∧
        ∀ line ∈ Text.lines text, 2 * 1024 * 1024 < line.utf8ByteSize →
          ∀ (service : Service) (id : String) (post : Arrival), post.request.Posts id line →
            service.answer setup post = ({ status := .contentTooLarge }, service) := by
  refine ⟨writes_written scripts, fun text h =>
    ⟨fun files arguments path input hasks hfile => ?_, fun files arguments hasks => ?_,
      fun hsize before opening hopening => ?_, fun line _ hsize service id post hpost => ?_⟩⟩
  · exact CommandLine.run_of_script hasks hfile (Script.ofText_of_writes h) input
  · exact CommandLine.run_of_lines hasks h
  · obtain ⟨hresponse, hkeeps⟩ := Service.keeps_of_opening hopening
    exact ⟨_, Prod.ext hresponse rfl, fun posts hposts =>
      Service.answers_of_posts hkeeps hposts hsize h⟩
  · exact Service.answer_of_unread (hpost.errand_of_long hsize)

/-- Two turns, the second one with blanks around it and a raised event. -/
def twoLines : String :=
  "\x7b\"input\":\x7b\"kind\":\"speech\",\"text\":\"hi\"\x7d\x7d\n" ++
    "\t\x7b \"commands\": [\x7b\"name\": \"send_reprompt\"\x7d], " ++
    "\"input\": \x7b\"kind\": \"speech\", \"text\": \"what\"\x7d \x7d \r\n"

/-- The turns that they write. -/
def twoScripts : List TurnScript :=
  [{ input := .speech "hi" },
    { input := .speech "what", commands := [{ name := "send_reprompt" }] }]

theorem writes_twoLines : List.Forall₂ Writes (Text.lines twoLines) twoScripts := by
  have hlines : Text.lines twoLines = [
      "\x7b\"input\":\x7b\"kind\":\"speech\",\"text\":\"hi\"\x7d\x7d",
      "\t\x7b \"commands\": [\x7b\"name\": \"send_reprompt\"\x7d], " ++
        "\"input\": \x7b\"kind\": \"speech\", \"text\": \"what\"\x7d \x7d \r"] := by
    decide +kernel
  rw [hlines, twoScripts]
  exact .cons ⟨by decide +kernel, by decide +kernel⟩
    (.cons ⟨by decide +kernel, by decide +kernel⟩ .nil)

/-- A file that holds the two lines. -/
def twoLinesFile (path : String) : Option String := if path = "turns" then some twoLines else none

/-- The request that opens the first session of a service. -/
def firstOpening : Arrival := Service.opening { clock := 26, number := 0 } "\x7b\x7d"

/-- A line as it is posted to that session. -/
theorem posts_posting (line : String) :
    (Service.posting "session_1a_0" line).request.Posts "session_1a_0" line where
  method := rfl
  target := by
    have htarget : (Http.path? ("/session/" ++ "session_1a_0" ++ "/turn")).bind Route.ofPath =
        some (.turn "session_1a_0") := by
      decide +kernel
    exact ⟨"session_1a_0", htarget, by decide +kernel⟩
  declared := by
    have hdeclared : declaresJson "application/json" = true := by decide +kernel
    exact hdeclared
  body := rfl

/-- A text that is served is served by a service that has not been asked anything before. -/
theorem Service.Serves.posting {setup : Setup} {text : String} {turns : List PastTurn}
    (h : Serves setup text turns) :
    let service := (({} : Service).answer setup firstOpening).2
    (service.answers setup ((Text.lines text).map (posting "session_1a_0"))).1.map Prod.snd =
      turns.map (PastTurn.response setup) := by
  intro service
  obtain ⟨opened, hopened, hposts⟩ := h [] firstOpening (by decide +kernel)
  have hservice : opened = service := (congrArg Prod.snd hopened).symm
  rw [hservice] at hposts
  refine hposts _ ?_
  rw [List.forall₂_map_left_iff, List.forall₂_same]
  have hname : firstOpening.stamp.name = "session_1a_0" := by decide +kernel
  intro line _
  rw [hname]
  exact posts_posting line

theorem scripts_run_alike_twoLines :
    CommandLine.run twoLinesFile ["--script", "turns", "--json"] "" =
        { output := printed {} (Session.new.turnsOf {} twoScripts) } ∧
      CommandLine.run twoLinesFile ["--interactive", "--json"] twoLines =
        { output := printed {} (Session.new.turnsOf {} twoScripts) } ∧
      let service := (({} : Service).answer {} firstOpening).2
      (service.answers {} ((Text.lines twoLines).map (Service.posting "session_1a_0"))).1.map
          Prod.snd =
        (Session.new.turnsOf {} twoScripts).map (PastTurn.response {}) := by
  obtain ⟨hreplay, hconverse, hserve, -⟩ :=
    (scripts_run_alike {} twoScripts).2 twoLines writes_twoLines
  have hsize : ∀ line ∈ Text.lines twoLines, line.utf8ByteSize ≤ 2 * 1024 * 1024 := by
    decide +kernel
  refine ⟨hreplay _ _ "turns" _ ?_ rfl, hconverse _ _ ?_, (hserve hsize).posting⟩
  · exact ⟨{ script := some "turns", json := true }, by decide +kernel, rfl, rfl, rfl, rfl, rfl⟩
  · exact ⟨{ interactive := true, json := true }, by decide +kernel, rfl, rfl, rfl, rfl, rfl⟩

/-! ### A line that is too long -/

namespace Json

/-- A member of an object stands in its text. -/
theorem chars_infix_of_mem {name : String} {value : Json} {members : List (String × Json)}
    (h : (name, value) ∈ members) : value.chars <:+: (object members).chars := by
  suffices hmembers : value.chars <:+: charsOfMembers members from
    hmembers.trans ⟨['{'], ['}'], by simp [chars]⟩
  induction members with
  | nil => cases h
  | cons member rest ih =>
    obtain ⟨name', value'⟩ := member
    rcases List.mem_cons.mp h with heq | hrest
    · cases heq
      cases rest with
      | nil => exact ⟨spelledString name ++ [':'], [], by simp [charsOfMembers]⟩
      | cons second more =>
        exact ⟨spelledString name ++ [':'], ',' :: charsOfMembers (second :: more),
          by simp [charsOfMembers]⟩
    · cases rest with
      | nil => cases hrest
      | cons second more =>
        exact (ih hrest).trans
          ⟨spelledString name' ++ ':' :: value'.chars ++ [','], [], by simp [charsOfMembers]⟩

/-- A string has no more characters than what is written of it. -/
theorem length_lt_chars_string (s : String) : s.toList.length < (string s).chars.length := by
  have hspelled : s.toList.length ≤ (s.toList.flatMap spelledChar).length := by
    induction s.toList with
    | nil => exact Nat.le_refl _
    | cons c l ih =>
      have hc : 0 < (spelledChar c).length := by
        rcases spelledChar_cases c with ⟨e, he, -⟩ | ⟨hunit, -⟩ | ⟨hplain, -⟩
        · simp [he]
        · simp [hunit]
        · simp [hplain]
      rw [List.flatMap_cons, List.length_append, List.length_cons]
      omega
  rw [chars, spelledString, List.length_append, List.length_cons, List.length_singleton]
  omega

/-- A text has no more characters than bytes. -/
theorem length_chars_le (j : Json) : j.chars.length ≤ j.text.utf8ByteSize := by
  rw [text]
  induction j.chars with
  | nil => exact Nat.zero_le _
  | cons c l ih =>
    have hc := c.utf8Size_pos
    rw [List.length_cons, String.ofList_cons, String.utf8ByteSize_append,
      String.utf8ByteSize_singleton]
    omega

end Json

/-- The line of a turn is longer than any rule that comes with the turn. -/
theorem length_rule_lt (script : TurnScript) {rule text : String}
    (h : (rule, text) ∈ script.engine.rules.entries) :
    text.toList.length < (Wire.turnScript.write script).text.utf8ByteSize := by
  let rules : Json :=
    .object (script.engine.rules.entries.map fun entry => (entry.1, .string entry.2))
  have hrule : (Json.string text).chars <:+: rules.chars :=
    Json.chars_infix_of_mem (List.mem_map.mpr ⟨_, h, rfl⟩)
  have hrules : rules.chars <:+: (Wire.engineScript.write script.engine).chars :=
    Json.chars_infix_of_mem (List.mem_of_getElem? (i := 2) rfl)
  have hengine : (Wire.engineScript.write script.engine).chars <:+:
      (Wire.turnScript.write script).chars :=
    Json.chars_infix_of_mem (List.mem_of_getElem? (i := 3) rfl)
  calc text.toList.length
      < (Json.string text).chars.length := Json.length_lt_chars_string text
    _ ≤ (Wire.turnScript.write script).chars.length :=
        ((hrule.trans hrules).trans hengine).length_le
    _ ≤ (Wire.turnScript.write script).text.utf8ByteSize := Json.length_chars_le _

/-- A turn with a rule that is as long as a body may be. -/
def longScript : TurnScript where
  input := .speech "hi"
  engine := {
    rules := Dict.empty.insert "^fallback"
      (String.ofList (List.replicate Request.bodyLimit 'a')) }

/-- **A line that is too long** holds a turn as any other does, but there are no turns as which all
three would run it. -/
theorem longScript_not_served :
    List.Forall₂ Writes (Text.lines (written [longScript])) [longScript] ∧
      ¬ ∃ turns : List PastTurn, CommandLine.Replays {} (written [longScript]) turns ∧
        CommandLine.Converses {} (written [longScript]) turns ∧
        Service.Serves {} (written [longScript]) turns := by
  refine ⟨writes_written _, ?_⟩
  rintro ⟨turns, -, -, hserves⟩
  have hlines : Text.lines (written [longScript]) = [(Wire.turnScript.write longScript).text] :=
    Text.lines_append (not_mem_text longScript) ""
  have hsize : Request.bodyLimit < (Wire.turnScript.write longScript).text.utf8ByteSize := by
    have hrule := length_rule_lt longScript (List.mem_singleton.mpr rfl)
    rwa [String.toList_ofList, List.length_replicate] at hrule
  have hunread := (posts_posting _).errand_of_long hsize
  have hposts := hserves.posting
  dsimp only at hposts
  rw [hlines, List.map_singleton, Service.answers_cons, Service.answer_of_unread hunread] at hposts
  -- a turn that is run is answered well
  have hrefused : ({ status := .contentTooLarge } : Response) ∈
      turns.map (PastTurn.response {}) := by
    rw [← hposts]
    exact List.mem_singleton_self _
  obtain ⟨turn, -, hturn⟩ := List.mem_map.mp hrefused
  cases congrArg Response.status hturn

end Colloquy
