import ThreadHost.Proofs.Session.Conversation
/-!
# Commands and replies in step

A device that keeps to the protocol sends one reply for each command. `Answered` says that round
trips have been answered by replies in order, and which replies are left. Every conversation
preserves it (`Conversation.inStep`), and so does any run of operations, in whatever way each of
them ends: the commands and the replies never get out of step.
-/

namespace ThreadHost.Session

/-- Round trips that were answered by the replies in order, and the replies left behind them. -/
inductive Answered : List Exchange → List Reply → List Reply → Prop where
  | none (replies : List Reply) : Answered [] replies replies
  | next (command : String) (reply : Reply) {exchanges : List Exchange} {replies rest : List Reply}
      (others : Answered exchanges replies rest) :
      Answered (⟨command, reply.outcome command⟩ :: exchanges) (reply :: replies) rest

namespace Answered

variable {exchanges first second : List Exchange} {replies middle rest : List Reply}

/-- Two runs of round trips, one after the other. -/
theorem append (one : Answered first replies middle) (two : Answered second middle rest) :
    Answered (first ++ second) replies rest := by
  induction one with
  | none replies => exact two
  | next command reply others inductionHypothesis =>
    exact .next command reply (inductionHypothesis two)

/-- Each round trip uses up one reply. -/
theorem rest_eq_drop (answered : Answered exchanges replies rest) :
    rest = replies.drop exchanges.length := by
  induction answered with
  | none replies => rfl
  | next command reply others inductionHypothesis => exact inductionHypothesis

/-- The replies are those that were used up and those that are left. -/
theorem length_eq (answered : Answered exchanges replies rest) :
    replies.length = exchanges.length + rest.length := by
  induction answered with
  | none replies => simp
  | next command reply others inductionHypothesis =>
    rw [List.length_cons, List.length_cons, inductionHypothesis]
    omega

/-- The round trip at any place was answered by the reply at that place. -/
theorem outcome_eq (answered : Answered exchanges replies rest) {place : Nat} {exchange : Exchange}
    (there : exchanges[place]? = some exchange) :
    ∃ reply, replies[place]? = some reply ∧ exchange.outcome = reply.outcome exchange.command := by
  induction answered generalizing place with
  | none replies => simp at there
  | next command reply others inductionHypothesis =>
    cases place with
    | zero =>
      obtain rfl : _ = exchange := by simpa using there
      exact ⟨reply, rfl, rfl⟩
    | succ place => exact inductionHypothesis there

end Answered

/-- What is kept by a run: its round trips were answered in order, and the output begins with the
first reply that is left. -/
def InStep (exchanges : List Exchange) (replies : List Reply) (after : Session) : Prop :=
  ∃ rest, Answered exchanges replies rest ∧
    after.streams.unread = Reply.renderAll rest ∧ Ready after

/-- What follows something that was in step goes on with the replies that are left. -/
theorem InStep.append {first second : List Exchange} {replies : List Reply} {middle after : Session}
    (one : InStep first replies middle) (enough : (first ++ second).length ≤ replies.length)
    (two : ∀ rest, middle.streams.unread = Reply.renderAll rest → Ready middle →
      second.length ≤ rest.length → InStep second rest after) :
    InStep (first ++ second) replies after := by
  obtain ⟨left, answered, unread, ready⟩ := one
  have count := answered.length_eq
  rw [List.length_append] at enough
  obtain ⟨rest, others, later, last⟩ := two left unread ready (by omega)
  exact ⟨rest, answered.append others, later, last⟩

/-- One command and the reply to it. -/
theorem execute_inStep {session : Session} (ready : Ready session) {command : String}
    (single : Command.isSingleLine command = true) {reply : Reply} {replies : List Reply}
    (output : session.streams.unread = Reply.renderAll (reply :: replies)) :
    InStep [⟨command, ((execute command).perform session).1⟩] (reply :: replies)
      ((execute command).perform session).2 := by
  obtain ⟨after, performed, unread, steady, calm⟩ :=
    execute_reply ready.steady ready.calm single output
  rw [performed]
  exact ⟨replies, .next command reply (.none replies), unread, steady, calm⟩

/-- The round trips of an operation are in step with the replies, and it leaves the output at the
first reply to come, whether it answered or failed. -/
theorem Conversation.inStep {α : Type} {act : Act Session α} (conversation : Conversation act)
    {session : Session} (ready : Ready session) {replies : List Reply}
    (output : session.streams.unread = Reply.renderAll replies)
    (enough : (conversation.exchanges session).length ≤ replies.length) :
    InStep (conversation.exchanges session) replies (act.perform session).2 := by
  induction conversation generalizing session replies with
  | aside quiet =>
    obtain ⟨unread, after⟩ := quiet session ready
    exact ⟨replies, .none replies, unread.trans output, after⟩
  | execute command =>
    cases single : Command.isSingleLine command with
    | false =>
      -- The command does not go out, so no reply is used up.
      rw [exchanges, single, Session.execute, Act.perform_bind, perform_send_several single]
      exact ⟨replies, .none replies, output, ready⟩
    | true =>
      simp only [exchanges, single, if_true] at enough ⊢
      cases replies with
      | nil => simp at enough
      | cons reply replies => exact execute_inStep ready single output
  | @bind α β first next head rest headInStep restInStep =>
    have shorter : (head.exchanges session).length ≤ replies.length := by
      rw [exchanges, List.length_append] at enough
      omega
    -- The rest meets the replies that the head has left, unless the head failed.
    have one := headInStep ready output shorter
    rw [exchanges] at enough ⊢
    rw [Act.perform_bind]
    generalize first.perform session = result at one enough ⊢
    obtain ⟨failure | value, middle⟩ := result
    · rw [List.append_nil]
      exact one
    · exact one.append enough fun left unread ready fits => restInStep value ready unread fits
  | map inner inductionHypothesis =>
    rw [Act.perform_map]
    exact inductionHypothesis ready output enough

/-- An operation that leaves the link open. -/
abbrev Request := { operation : Operation // operation ≠ .close }

/-- The session after a request, whether it was answered or failed. -/
def Request.after (request : Request) (session : Session) : Session :=
  ((perform request.1).perform session).2

/-- The session after some requests. -/
def afterAll (requests : List Request) (session : Session) : Session :=
  requests.foldl (fun session request => request.after session) session

/-- The round trips of some requests, one request after the other. -/
def exchanges : List Request → Session → List Exchange
  | [], _ => []
  | request :: requests, session =>
    (conversation request.1 request.2).exchanges session ++
      exchanges requests (request.after session)

/-- The round trips of two runs of requests follow each other. -/
theorem exchanges_append (first second : List Request) (session : Session) :
    exchanges (first ++ second) session =
      exchanges first session ++ exchanges second (afterAll first session) := by
  induction first generalizing session with
  | nil => rfl
  | cons request first inductionHypothesis =>
    rw [List.cons_append, exchanges, inductionHypothesis, exchanges, List.append_assoc]
    rfl

/-- Any run of requests is in step with the replies. -/
theorem exchanges_inStep {requests : List Request} {session : Session} (ready : Ready session)
    {replies : List Reply} (output : session.streams.unread = Reply.renderAll replies)
    (enough : (exchanges requests session).length ≤ replies.length) :
    InStep (exchanges requests session) replies (afterAll requests session) := by
  induction requests generalizing session replies with
  | nil => exact ⟨replies, .none replies, output, ready⟩
  | cons request requests inductionHypothesis =>
    have shorter : ((conversation request.1 request.2).exchanges session).length ≤
        replies.length := by
      rw [exchanges, List.length_append] at enough
      omega
    have one := (conversation request.1 request.2).inStep ready output shorter
    exact one.append enough fun rest unread ready fits => inductionHypothesis ready unread fits

/-- Commands and replies stay in step over any run of requests: each command that goes out is
answered by the reply at its place, and behind each request, whether it was answered or failed,
the output begins with the first reply that no command has used up. -/
theorem exchanges_meet_replies (session : Session) (steady : session.streams.Steady)
    (calm : session.Calm) (requests : List Request) (replies : List Reply)
    (output : session.streams.unread = Reply.renderAll replies)
    (enough : (exchanges requests session).length ≤ replies.length) :
    (∀ (place : Nat) (exchange : Exchange),
      (exchanges requests session)[place]? = some exchange →
        ∃ reply, replies[place]? = some reply ∧
          exchange.outcome = reply.outcome exchange.command) ∧
      ∀ done, done <+: requests → (afterAll done session).streams.unread =
        Reply.renderAll (replies.drop (exchanges done session).length) := by
  constructor
  · intro place exchange there
    obtain ⟨rest, answered, -⟩ := exchanges_inStep ⟨steady, calm⟩ output enough
    exact answered.outcome_eq there
  · rintro done ⟨others, rfl⟩
    rw [exchanges_append, List.length_append] at enough
    have shorter : (exchanges done session).length ≤ replies.length := by omega
    obtain ⟨rest, answered, unread, -⟩ := exchanges_inStep ⟨steady, calm⟩ output shorter
    rw [unread, answered.rest_eq_drop]

/-- A prompt and a role, closed by `Done`. -/
def roleReply : Reply where
  body := [(.prompt "> state" (by decide) (by decide), .returnFeed),
    (.content "leader" (by decide) (by decide) (by decide) (by decide) (by decide), .feed)]
  closing := .done
  closingEnd := .returnFeed

/-- An error line behind a line of content. -/
def errorReply : Reply where
  body := [(.content "" (by decide) (by decide) (by decide) (by decide) (by decide), .feed)]
  closing := .error "Error: busy" (by decide) (by decide) (by decide)
  closingEnd := .feed

/-- A role, a reset that nobody answers, a stop whose first command fails, and the addresses. -/
def someRequests : List Request :=
  [⟨.getState, by simp⟩, ⟨.factoryReset, by simp⟩, ⟨.stopRadio, by simp⟩, ⟨.getAddresses, by simp⟩]

/-- What the device sends for them. -/
def someReplies : List Reply := [roleReply, errorReply, roleReply]

theorem exchanges_meet_replies_someRequests :
    (exchanges someRequests (onOutput (Reply.renderAll someReplies) [])).length = 3 ∧
      (∀ (place : Nat) (exchange : Exchange),
        (exchanges someRequests (onOutput (Reply.renderAll someReplies) []))[place]? =
            some exchange →
          ∃ reply, someReplies[place]? = some reply ∧
            exchange.outcome = reply.outcome exchange.command) ∧
      (afterAll someRequests (onOutput (Reply.renderAll someReplies) [])).streams.unread = [] := by
  have calm : (onOutput (Reply.renderAll someReplies) []).Calm := calm_of_manner rfl
  have three : (exchanges someRequests
      (onOutput (Reply.renderAll someReplies) [])).length = 3 := by decide +kernel
  obtain ⟨answered, unread⟩ := exchanges_meet_replies _ (steady_onOutput _ _) calm someRequests
    someReplies rfl (Nat.le_of_eq three)
  refine ⟨three, answered, ?_⟩
  rw [unread someRequests (List.prefix_refl _), three]
  rfl

/-- An observer that fails when a command goes out leaves the whole reply for the next one. -/
theorem exchanges_miss_replies_of_failing_observer :
    ¬∀ (session : Session) (requests : List Request) (replies : List Reply),
      session.streams.Steady → session.streams.unread = Reply.renderAll replies →
      (exchanges requests session).length ≤ replies.length →
        (afterAll requests session).streams.unread =
          Reply.renderAll (replies.drop (exchanges requests session).length) := by
  intro always
  have consumed := always (onOutput (Reply.renderAll [roleReply]) [.named "log"] failing)
    [⟨.getState, by simp⟩] [roleReply] (steady_onOutput _ _ _) rfl (by decide +kernel)
  exact absurd consumed (by decide +kernel)

end ThreadHost.Session
