import ContractAssist.Run.Step

/-!
# Detail — what a run tells about its course

Beside the messages that matter, a run tells each turn that it takes, to those who ask to hear
everything.

* `Run.Detail` is one such note, with the values that it names;
* `Run.details` are the notes about one event, in order.
-/

namespace ContractAssist
namespace Run

inductive Detail where
  | exited (how : Ending)
  -- the child had come to its end, and the question is not put
  | skipped (promptText : Text)
  | resolving (kind : PromptKind) (promptText : Text)
  | rejected (complaint : Text)
  -- an exchange was ended by something else than an answer
  | abandoned
  -- a reply came when there was nobody left to read it
  | undelivered
  deriving DecidableEq, Repr, Inhabited

/-- The end of the child, if it is seen for the first time. -/
def exitDetails (r : Run) (seen? : Option Exit) : List Detail :=
  match r.exit?, seen? with
  | none, some (.ended how) => [.exited how]
  | _, _ => []

def handOutDetails (r : Run) (now : Instant) (glimpse : Glimpse) : List Detail :=
  match r.session.takeReady now with
  | (_, none) => []
  | (_, some prompt) =>
    match r.look glimpse with
    | (_, _, true) => [.resolving prompt.kind prompt.text]
    | (_, _, false) => r.exitDetails glimpse.exit? ++ [.skipped prompt.text]

def answerDetails (r : Run) (exchange : Resolution) (answer : Answer) (glimpse : Glimpse) :
    List Detail :=
  match exchange.take r.minPasswordLength answer with
  | .settled (.reply _) _ =>
    match r.look glimpse with
    | (r', _, alive) =>
      r.exitDetails glimpse.exit? ++ if alive && !r'.session.isDone then [] else [.undelivered]
  | .settled .cancelled exhausted =>
    if exhausted then [.rejected (Secret.lengthMessage r.minPasswordLength)] else []
  | .entering request _ => request.error.toList.map .rejected
  | .confirming _ => []

def details (r : Run) (now : Instant) (event : Event) : List Detail :=
  match r.phase, event with
  | .listening, .exited exit => r.exitDetails exit
  | .listening, .settled glimpse => r.handOutDetails now glimpse
  | .resolving _ _, .chunk chunk =>
    if r.streamsOpen && (r.absorb now chunk).1.session.isDone then [.abandoned] else []
  | .resolving _ _, .exited exit =>
    if r.exit?.isSome then [] else r.exitDetails exit ++ [.abandoned]
  | .resolving _ exchange, .answered answer glimpse => r.answerDetails exchange answer glimpse
  | _, _ => []

end Run
end ContractAssist
