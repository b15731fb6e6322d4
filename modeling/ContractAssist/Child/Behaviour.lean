import ContractAssist.FileTree.Basic
import ContractAssist.Run.Basic

/-!
# Behaviour — what a program does

A program is known by its requests to the machine: it says something, hears something, rests, looks
at files, starts another program. A behaviour is the tree of all courses that this can take.

* `Channel` names what a program can read from or write to;
* `Behaviour` is the next request together with what follows each answer to it.
-/

namespace ContractAssist

inductive Channel where
  | input
  | stream (kind : StreamKind)
  | source (pipe : Nat)
  | sink (pipe : Nat)
  | file (number : Nat)
  | bytes (number : Nat)
  | device (kind : Device)
  deriving DecidableEq, Repr, Inhabited

/-- Something with a position, which all who have it share. -/
inductive Opened where
  -- a file; what is written goes to its end if `appends` is set
  | file (place : Place) (position : Nat) (appends : Bool)
  -- bytes that are still to be read
  | bytes (left : Bytes)
  deriving DecidableEq, Repr, Inhabited

/-- Nothing is read, and what is written is lost. -/
def Channel.nothing : Channel := .device .sink

def Opened.channel (number : Nat) : Opened → Channel
  | .file _ _ _ => .file number
  | .bytes _ => .bytes number

inductive Heed where
  | usual
  | ignored
  | caught
  deriving DecidableEq, Repr, Inhabited

inductive Behaviour where
  | ended (how : Ending)
  | pause (next : List Nat → Behaviour)
  -- it writes, all at once; the answer is `false` if nobody can read it
  | say (channel : Channel) (bytes : Bytes) (next : Bool → Behaviour)
  -- it reads at most so many bytes; none at all is the end
  | hear (channel : Channel) (limit : Nat) (next : Bytes → Behaviour)
  | rest (span : Duration) (next : Unit → Behaviour)
  | look (next : FileTree → Behaviour)
  | change (files : FileTree) (next : Unit → Behaviour)
  -- it makes a pipe and has both its ends
  | openPipe (next : Nat → Behaviour)
  | openChannel (opened : Opened) (next : Channel → Behaviour)
  -- it has these channels from now on, and no others
  | hold (channels : List Channel) (next : Unit → Behaviour)
  -- it starts another program, which has its channels too; both are told its number
  | fork (child : Nat → Behaviour) (next : Nat → Behaviour)
  -- it waits for the end of another program; there is no answer if a caught signal comes first and
  -- `interruptible` is set
  | await (process : Nat) (interruptible : Bool) (next : Option Ending → Behaviour)
  -- it sends a signal; the answer is `false` if there is no such program
  | strike (process signal : Nat) (next : Bool → Behaviour)
  | heed (signal : Nat) (how : Heed) (next : Unit → Behaviour)

instance : Inhabited Behaviour := ⟨.ended (.code 0)⟩

end ContractAssist
