import BnsKorea.Library.Retries
import BnsKorea.Game.TransferScript

/-!
# Asking for a script

The game asks until it has the script.  One record is both: its name is what the
next request asks for, and every reply is taken into it.
-/

namespace BnsKorea
namespace Game

open Library Server

/-!
## Requests and replies
-/

/-- The callback runs if there is a reply, and takes all of it before the checks. -/
def CSocketAPI.downLoadScript (T : MyTools) (GetCRC32_DWORD : List BYTE -> DWORD)
    (reply : Option ScriptAnswer) (Content : ScriptAnswer) (wsErrText : WString) :
    Option (Bool × ScriptAnswer × WString) :=
  match reply with
  | none => some (false, Content, wsErrText)
  | some Content =>
      (checkScript T GetCRC32_DWORD Content).map fun
        | .error wsText => (false, Content, wsText)
        | .ok () => (true, Content, wsErrText)

namespace CTransferScript

/-- The local variables of the loop, and the requests that were sent. -/
structure Download where
  CiphertextContent : ScriptAnswer
  wsErrText : WString := []
  wsScriptContent : WString := []
  requests : List Client.CSocketAPI.Call := []

def wsComprScriptName (wsScriptName : WString) : WString :=
  if wsScriptName.tails.any (L ".inf").isPrefixOf then wsScriptName
  else wsScriptName ++ L ".inf"

section

variable (T : MyTools) (Z : Zlib) (M : Memory) (GetCRC32_DWORD : List BYTE -> DWORD)
  (wsAccName : WString)

/--
One turn of the loop for the name with its ending.  It ends the loop with the text,
or with none where something is read outside of a buffer.
-/
def scriptAttempt (wsName : WString) (reply : Option ScriptAnswer) (s : Download) :
    Download × Option (Option WString) :=
  let s := { s with
    requests := s.requests ++ [.downLoadScript s.CiphertextContent.wsScriptName] }
  match CSocketAPI.downLoadScript T GetCRC32_DWORD reply s.CiphertextContent
      s.wsErrText with
  | none => (s, some none)
  | some (bRetCode, CiphertextContent, wsErrText) =>
      let s := { s with
        CiphertextContent := CiphertextContent
        wsErrText := wsErrText }
      if bRetCode = false then (s, none)
      else if CiphertextContent.wsScriptName ≠ wsName then (s, none)
      else if CiphertextContent.wsAccountName ≠ wsAccName then (s, none)
      else
        match decodeScript Z M GetCRC32_DWORD CiphertextContent with
        | none => (s, some none)
        | some (CiphertextContent, none) =>
            ({ s with CiphertextContent := CiphertextContent }, none)
        | some (CiphertextContent, some wsScriptContent) =>
            ({ s with
              CiphertextContent := CiphertextContent
              wsScriptContent := wsScriptContent }, some (some wsScriptContent))

def downLoadScript (Junk : ScriptAnswer) (wsScriptName : WString)
    (replies : List (Option ScriptAnswer)) : Download × Option (Option WString) :=
  Retries.retry
    (scriptAttempt T Z M GetCRC32_DWORD wsAccName (wsComprScriptName wsScriptName))
    replies
    { CiphertextContent :=
        { Junk with wsScriptName := wsComprScriptName wsScriptName } }

/-!
## What a reply does
-/

/-- The server's reply: it passes the checks, and decodes to the text. -/
structure Proper (wsName : WString) (Received : ScriptAnswer) (wsText : WString) :
    Prop where
  checked : CSocketAPI.checkScript T GetCRC32_DWORD Received = some (.ok ())
  name : Received.wsScriptName = wsName
  account : Received.wsAccountName = wsAccName
  decoded : (decodeScript Z M GetCRC32_DWORD Received).map Prod.snd =
    some (some wsText)

/-- The end that a reply puts to the loop, whatever is in the record. -/
def outcome (wsName : WString) (reply : Option ScriptAnswer) :
    Option (Option WString) :=
  match reply with
  | none => none
  | some Received =>
      match CSocketAPI.checkScript T GetCRC32_DWORD Received with
      | none => some none
      | some (.error _) => none
      | some (.ok ()) =>
          if Received.wsScriptName ≠ wsName then none
          else if Received.wsAccountName ≠ wsAccName then none
          else
            match decodeScript Z M GetCRC32_DWORD Received with
            | none => some none
            | some (_, wsScriptContent) => wsScriptContent.map some

end

variable {T : MyTools} {Z : Zlib} {M : Memory} {GetCRC32_DWORD : List BYTE -> DWORD}
  {wsAccName wsName : WString}

theorem decodeScript_wsScriptName {Content Decoded : ScriptAnswer}
    {wsScriptContent : Option WString}
    (h : decodeScript Z M GetCRC32_DWORD Content = some (Decoded, wsScriptContent)) :
    Decoded.wsScriptName = Content.wsScriptName := by
  rcases Option.bind_eq_some_iff.mp h with ⟨ExpressBuffer, _, hread⟩
  rcases Option.bind_eq_some_iff.mp hread with ⟨Express, _, hchecked⟩
  dsimp only at hchecked
  split at hchecked
  · cases hchecked
    rfl
  · rcases Option.map_eq_some_iff.mp hchecked with ⟨ws, _, hpair⟩
    cases hpair
    rfl

variable (T Z M GetCRC32_DWORD wsAccName wsName) in
theorem scriptAttempt_eq (reply : Option ScriptAnswer) (s : Download) :
    exists t,
      scriptAttempt T Z M GetCRC32_DWORD wsAccName wsName reply s =
        (t, outcome T Z M GetCRC32_DWORD wsAccName wsName reply) ∧
      t.requests = s.requests ++ [.downLoadScript s.CiphertextContent.wsScriptName] ∧
      (outcome T Z M GetCRC32_DWORD wsAccName wsName reply = none ->
        t.CiphertextContent.wsScriptName =
          (reply.getD s.CiphertextContent).wsScriptName) := by
  cases reply with
  | none => exact ⟨_, rfl, rfl, fun _ => rfl⟩
  | some Received =>
      unfold scriptAttempt CSocketAPI.downLoadScript outcome
      dsimp only
      cases CSocketAPI.checkScript T GetCRC32_DWORD Received with
      | none => exact ⟨_, rfl, rfl, fun h => nomatch h⟩
      | some checked =>
          cases checked with
          | error wsText => exact ⟨_, rfl, rfl, fun _ => rfl⟩
          | ok _ =>
              dsimp only [Option.map_some]
              rw [if_neg Bool.noConfusion]
              split
              · exact ⟨_, rfl, rfl, fun _ => rfl⟩
              · split
                · exact ⟨_, rfl, rfl, fun _ => rfl⟩
                · cases hdecode : decodeScript Z M GetCRC32_DWORD Received with
                  | none => exact ⟨_, rfl, rfl, fun h => nomatch h⟩
                  | some Decoded =>
                      rcases Decoded with ⟨Content, _ | wsScriptContent⟩
                      · exact ⟨_, rfl, rfl, fun _ =>
                          decodeScript_wsScriptName hdecode⟩
                      · exact ⟨_, rfl, rfl, fun h => nomatch h⟩

theorem outcome_eq_text_iff {reply : Option ScriptAnswer} {wsText : WString} :
    outcome T Z M GetCRC32_DWORD wsAccName wsName reply = some (some wsText) ↔
      exists Received, reply = some Received ∧
        Proper T Z M GetCRC32_DWORD wsAccName wsName Received wsText := by
  constructor
  · intro h
    cases reply with
    | none => cases h
    | some Received =>
        refine ⟨Received, rfl, ?_⟩
        unfold outcome at h
        dsimp only at h
        split at h
        · cases h
        · cases h
        · rename_i hchecked
          split at h
          · cases h
          · rename_i hname
            split at h
            · cases h
            · rename_i haccount
              split at h
              · cases h
              · rename_i Content wsScriptContent hdecode
                rcases Option.map_eq_some_iff.mp h with ⟨ws, hws, hsame⟩
                cases hsame
                exact {
                  checked := hchecked
                  name := not_not.mp hname
                  account := not_not.mp haccount
                  decoded := by rw [hdecode, Option.map_some, hws] }
  · intro h
    rcases h with ⟨Received, hreply, hproper⟩
    rcases Option.map_eq_some_iff.mp hproper.decoded with ⟨Decoded, hdecode, htext⟩
    rw [hreply]
    unfold outcome
    dsimp only
    rw [hproper.checked]
    dsimp only
    rw [if_neg (not_not.mpr hproper.name), if_neg (not_not.mpr hproper.account),
      hdecode]
    dsimp only
    rw [htext, Option.map_some]

/-!
## The requests of a run
-/

/-- Every refused reply behind which the loop waits for another one has the name. -/
def KeepsName (T : MyTools) (Z : Zlib) (M : Memory)
    (GetCRC32_DWORD : List BYTE -> DWORD) (wsAccName wsName : WString)
    (replies : List (Option ScriptAnswer)) : Prop :=
  forall pre Received post, replies = pre ++ some Received :: post -> post ≠ [] ->
    (forall reply, reply ∈ pre ++ [some Received] ->
      outcome T Z M GetCRC32_DWORD wsAccName wsName reply = none) ->
    Received.wsScriptName = wsName

variable (T Z M GetCRC32_DWORD wsAccName wsName) in
/-- What the loop asks for, from a name in the record. -/
def asked : WString -> List (Option ScriptAnswer) -> List Client.CSocketAPI.Call
  | _, [] => []
  | wsScriptName, reply :: replies =>
      .downLoadScript wsScriptName ::
        if outcome T Z M GetCRC32_DWORD wsAccName wsName reply = none then
          asked ((reply.map ScriptAnswer.wsScriptName).getD wsScriptName) replies
        else []

variable (T Z M GetCRC32_DWORD wsAccName wsName) in
theorem retry_requests (replies : List (Option ScriptAnswer)) (s : Download) :
    (Retries.retry (scriptAttempt T Z M GetCRC32_DWORD wsAccName wsName) replies
        s).1.requests =
      s.requests ++ asked T Z M GetCRC32_DWORD wsAccName wsName
        s.CiphertextContent.wsScriptName replies := by
  induction replies generalizing s with
  | nil => rw [Retries.retry, asked, List.append_nil]
  | cons reply replies ih =>
      rcases scriptAttempt_eq T Z M GetCRC32_DWORD wsAccName wsName reply s with
        ⟨t, hattempt, hrequests, hleft⟩
      rw [asked]
      cases hend : outcome T Z M GetCRC32_DWORD wsAccName wsName reply with
      | some wsScriptContent =>
          rw [hend] at hattempt
          rw [Retries.retry_cons_of_some hattempt, hrequests,
            if_neg (Option.some_ne_none _)]
      | none =>
          rw [hend] at hattempt
          rw [Retries.retry_cons_of_none hattempt, ih, hrequests, if_pos rfl,
            hleft hend, Option.getD_map, List.append_assoc, List.singleton_append]

theorem keepsName_of_end {reply : Option ScriptAnswer}
    {wsScriptContent : Option WString}
    (h : outcome T Z M GetCRC32_DWORD wsAccName wsName reply = some wsScriptContent)
    (replies : List (Option ScriptAnswer)) :
    KeepsName T Z M GetCRC32_DWORD wsAccName wsName (reply :: replies) := by
  intro pre Received post hsplit _ hrefused
  have hmem : reply ∈ pre ++ [some Received] := by
    cases pre with
    | nil =>
        rw [(List.cons.inj hsplit).left]
        exact List.mem_singleton_self _
    | cons first pre =>
        rw [(List.cons.inj hsplit).left]
        exact List.mem_cons_self
  rw [hrefused reply hmem] at h
  cases h

theorem keepsName_cons_iff {reply : Option ScriptAnswer}
    {replies : List (Option ScriptAnswer)}
    (h : outcome T Z M GetCRC32_DWORD wsAccName wsName reply = none) :
    KeepsName T Z M GetCRC32_DWORD wsAccName wsName (reply :: replies) ↔
      (replies ≠ [] -> forall Received, reply = some Received ->
        Received.wsScriptName = wsName) ∧
      KeepsName T Z M GetCRC32_DWORD wsAccName wsName replies := by
  constructor
  · intro hkeeps
    constructor
    · intro hmore Received hreply
      apply hkeeps [] Received replies (by rw [hreply, List.nil_append]) hmore
      intro r hr
      rw [List.mem_singleton.mp hr, ← hreply]
      exact h
    · intro pre Received post hsplit hmore hrefused
      apply hkeeps (reply :: pre) Received post (by rw [hsplit, List.cons_append]) hmore
      intro r hr
      rcases List.mem_cons.mp hr with hhead | htail
      · rw [hhead]
        exact h
      · exact hrefused r htail
  · intro hkeeps
    rcases hkeeps with ⟨hname, hrest⟩
    intro pre Received post hsplit hmore hrefused
    cases pre with
    | nil =>
        rcases List.cons.inj hsplit with ⟨hreply, hpost⟩
        exact hname (hpost ▸ hmore) Received hreply
    | cons first pre =>
        rcases List.cons.inj hsplit with ⟨_, htail⟩
        exact hrest pre Received post htail hmore fun r hr =>
          hrefused r (List.mem_cons_of_mem _ hr)

theorem keepsName_nil : KeepsName T Z M GetCRC32_DWORD wsAccName wsName [] :=
  fun _ _ _ hsplit => absurd hsplit.symm
    (List.append_ne_nil_of_right_ne_nil _ (List.cons_ne_nil _ _))

theorem asked_iff (replies : List (Option ScriptAnswer)) :
    (forall request,
        request ∈ asked T Z M GetCRC32_DWORD wsAccName wsName wsName replies ->
          request = .downLoadScript wsName) ↔
      KeepsName T Z M GetCRC32_DWORD wsAccName wsName replies := by
  induction replies with
  | nil => exact iff_of_true (fun _ h => nomatch h) keepsName_nil
  | cons reply replies ih =>
      rw [asked, List.forall_mem_cons]
      cases hend : outcome T Z M GetCRC32_DWORD wsAccName wsName reply with
      | some wsScriptContent =>
          rw [if_neg (Option.some_ne_none _)]
          exact iff_of_true ⟨rfl, fun _ h => nomatch h⟩
            (keepsName_of_end hend replies)
      | none =>
          rw [if_pos rfl, keepsName_cons_iff hend]
          by_cases hown :
              (reply.map ScriptAnswer.wsScriptName).getD wsName = wsName
          · have hreply : forall Received, reply = some Received ->
                Received.wsScriptName = wsName := by
              intro Received hsome
              rwa [hsome, Option.map_some, Option.getD_some] at hown
            rw [hown, ih]
            exact ⟨fun h => ⟨fun _ => hreply, h.right⟩, fun h => ⟨rfl, h.right⟩⟩
          · -- the next request, if there is one, asks for what the reply left
            cases replies with
            | nil =>
                exact iff_of_true ⟨rfl, fun _ h => nomatch h⟩
                  ⟨fun h => absurd rfl h, keepsName_nil⟩
            | cons next replies =>
                apply iff_of_false
                · intro hask
                  have hforeign := hask.right _ List.mem_cons_self
                  exact hown (Client.CSocketAPI.Call.downLoadScript.inj hforeign)
                · intro hkeeps
                  have hreply := hkeeps.left (List.cons_ne_nil _ _)
                  cases reply with
                  | none => exact hown rfl
                  | some Received => exact hown (hreply Received rfl)

/-!
## Recovering
-/

/-- What a run of the loop should be, for any replies. -/
structure Recovers (T : MyTools) (Z : Zlib) (M : Memory)
    (GetCRC32_DWORD : List BYTE -> DWORD) (wsAccName wsName : WString)
    (replies : List (Option ScriptAnswer))
    (run : Download × Option (Option WString)) : Prop where
  /-- Every request asks for the script. -/
  asks : forall request, request ∈ run.1.requests -> request = .downLoadScript wsName
  /-- The first proper reply ends the loop. -/
  ends : forall pre Received post wsText, replies = pre ++ some Received :: post ->
    (forall reply, reply ∈ pre ->
      outcome T Z M GetCRC32_DWORD wsAccName wsName reply = none) ->
    Proper T Z M GetCRC32_DWORD wsAccName wsName Received wsText ->
    run.2 = some (some wsText)
  /-- What is returned is the text of a proper reply. -/
  returns : forall wsText, run.2 = some (some wsText) ->
    exists Received, some Received ∈ replies ∧
      Proper T Z M GetCRC32_DWORD wsAccName wsName Received wsText

theorem retry_of_proper {pre post : List (Option ScriptAnswer)}
    {Received : ScriptAnswer} {wsText : WString}
    (hrefused : forall reply, reply ∈ pre ->
      outcome T Z M GetCRC32_DWORD wsAccName wsName reply = none)
    (hproper : Proper T Z M GetCRC32_DWORD wsAccName wsName Received wsText)
    (s : Download) :
    (Retries.retry (scriptAttempt T Z M GetCRC32_DWORD wsAccName wsName)
      (pre ++ some Received :: post) s).2 = some (some wsText) := by
  have hnone : forall reply u, reply ∈ pre ->
      (scriptAttempt T Z M GetCRC32_DWORD wsAccName wsName reply u).2 = none := by
    intro reply u hreply
    rcases scriptAttempt_eq T Z M GetCRC32_DWORD wsAccName wsName reply u with
      ⟨t, hattempt, _⟩
    rw [hattempt]
    exact hrefused reply hreply
  rcases Retries.retry_of_forall_none hnone s with ⟨t, hpre⟩
  rcases scriptAttempt_eq T Z M GetCRC32_DWORD wsAccName wsName (some Received) t with
    ⟨u, hattempt, _⟩
  rw [outcome_eq_text_iff.mpr ⟨Received, rfl, hproper⟩] at hattempt
  rw [Retries.retry_append hpre, Retries.retry_cons_of_some hattempt]

theorem proper_of_retry {replies : List (Option ScriptAnswer)} {s : Download}
    {wsText : WString}
    (h : (Retries.retry (scriptAttempt T Z M GetCRC32_DWORD wsAccName wsName) replies
      s).2 = some (some wsText)) :
    exists Received, some Received ∈ replies ∧
      Proper T Z M GetCRC32_DWORD wsAccName wsName Received wsText := by
  rcases Retries.exists_of_retry (Prod.ext rfl h) with
    ⟨pre, reply, post, t, hreplies, _, hlast⟩
  rcases scriptAttempt_eq T Z M GetCRC32_DWORD wsAccName wsName reply t with
    ⟨u, hattempt, _⟩
  have hend := (Prod.mk.inj (hattempt.symm.trans hlast)).right
  rcases outcome_eq_text_iff.mp hend with ⟨Received, hreply, hproper⟩
  refine ⟨Received, ?_, hproper⟩
  rw [hreplies, hreply]
  exact List.mem_append_right _ List.mem_cons_self

/--
The download recovers from replies exactly if none of them leaves another name behind
while the loop goes on.  It never returns the text of a wrong reply.
-/
theorem downLoadScript_recovers_iff (T : MyTools) (Z : Zlib) (M : Memory)
    (GetCRC32_DWORD : List BYTE -> DWORD) (wsAccName : WString) (Junk : ScriptAnswer)
    (wsScriptName : WString) (replies : List (Option ScriptAnswer)) :
    Recovers T Z M GetCRC32_DWORD wsAccName (wsComprScriptName wsScriptName) replies
        (downLoadScript T Z M GetCRC32_DWORD wsAccName Junk wsScriptName replies) ↔
      KeepsName T Z M GetCRC32_DWORD wsAccName (wsComprScriptName wsScriptName)
        replies := by
  have hrequests := retry_requests T Z M GetCRC32_DWORD wsAccName
    (wsComprScriptName wsScriptName) replies
    { CiphertextContent :=
        { Junk with wsScriptName := wsComprScriptName wsScriptName } }
  rw [List.nil_append] at hrequests
  rw [← asked_iff, ← hrequests]
  constructor
  · intro hrecovers
    exact hrecovers.asks
  · intro hasks
    exact {
      asks := hasks
      ends := by
        intro pre Received post wsText hreplies hrefused hproper
        rw [downLoadScript, hreplies]
        exact retry_of_proper hrefused hproper _
      returns := fun wsText h => proper_of_retry h }

/-!
## A foreign reply
-/

def foreignScript : ScriptAnswer :=
  scriptAnswer storing Server.crc32 (L "b.inf") (L "a") (L "anna")

theorem foreignScript_refused :
    outcome MyTools.standard storing Memory.standard Server.crc32 (L "anna")
      (L "a.inf") (some foreignScript) = none := by
  have hsizes : SizesFit storing (L "a") := ⟨by decide, by decide⟩
  have hchecked : CSocketAPI.checkScript MyTools.standard Server.crc32 foreignScript =
      some (.ok ()) := checkScript_scriptAnswer _ hsizes _ _
  unfold outcome
  dsimp only
  rw [hchecked]
  exact if_pos (by decide)

theorem foreignScript_requests :
    (downLoadScript MyTools.standard storing Memory.standard Server.crc32
        (L "anna") foreignScript (L "a") [some foreignScript, none]).1.requests =
      [.downLoadScript (L "a.inf"), .downLoadScript (L "b.inf")] := by
  have hcompr : wsComprScriptName (L "a") = L "a.inf" := by decide
  rw [downLoadScript, hcompr, retry_requests, List.nil_append, asked,
    if_pos foreignScript_refused, asked]
  rfl

theorem foreignScript_asked :
    exists replies,
      (downLoadScript MyTools.standard storing Memory.standard Server.crc32
          (L "anna") foreignScript (L "a") replies).1.requests =
        [.downLoadScript (L "a.inf"), .downLoadScript (L "b.inf")] ∧
      ¬ Recovers MyTools.standard storing Memory.standard Server.crc32 (L "anna")
        (wsComprScriptName (L "a")) replies
        (downLoadScript MyTools.standard storing Memory.standard Server.crc32
          (L "anna") foreignScript (L "a") replies) := by
  refine ⟨[some foreignScript, none], foreignScript_requests, ?_⟩
  intro hrecovers
  have hsecond := hrecovers.asks (.downLoadScript (L "b.inf")) (by
    rw [foreignScript_requests]
    exact List.mem_cons_of_mem _ List.mem_cons_self)
  exact absurd (Client.CSocketAPI.Call.downLoadScript.inj hsecond) (by decide)

end CTransferScript
end Game
end BnsKorea
