import ContractAssist.Shell.Expansion
import ContractAssist.Shell.Opening

/-!
# Redirection — where channels lead

* `Redirection` is a redirection whose words were expanded;
* `Redirection.carryOut` changes a channel;
* `Redirection.around` does some work with other channels and gives back those before.
-/

namespace ContractAssist
namespace Shell

inductive Redirection where
  | file (number : Nat) (mode : FileMode) (path : Text)
  | duplicate (number source : Nat)
  | close (number : Nat)
  | here (number text : Nat)
  deriving DecidableEq, Repr, Inhabited

namespace Redirection

def number : Redirection → Nat
  | file number _ _ => number
  | duplicate number _ => number
  | close number => number
  | here number _ => number

def badNumber : Text := "Syntax error: Bad fd number"

def ofRedirect (run : Option Command → Act Text) (fuel : Nat) : Redirect → Act Redirection
  | .file number mode path => do
    return file number mode (← Expansion.text run fuel Expansion.whole path)
  | .duplicate number target => do
    match ← Expansion.fields run fuel target with
    | [] => Act.fail "redir error"
    | ['-'] :: _ => return close number
    | [c] :: _ =>
      if c.isDigit then return duplicate number (c.toNat - 48) else Act.fail badNumber
    | _ => Act.fail badNumber
  | .here number text => return here number text

/-- The wording of the cause for which a file cannot be opened, or created. -/
def causeText (creates : Bool) (e : IoError) : Text :=
  match e with
  | .notFound => if creates then "Directory nonexistent" else "No such file"
  | .notADirectory => if creates then "Directory nonexistent" else "No such file"
  | e => e.text

def fault {α : Type} (creates : Bool) (path : Text) (e : IoError) : Act α :=
  Act.fail ((if creates then "cannot create " else "cannot open ") ++ path ++ ": "
    ++ causeText creates e)

def carryOut (run : Option Command → Act Text) (fuel : Nat) : Redirection → Act Unit
  | file number mode path => do
    match ← Act.openPath mode path with
    | .ok channel => Act.modify fun s => s.redirect number (some channel)
    | .error e => fault (mode ≠ .read) path e
  | duplicate number source => do
    if number = source then pure ()
    else
      match (← Act.get).channel? source with
      | some channel => Act.modify fun s => s.redirect number (some channel)
      | none => Act.fail (Text.ofNat source ++ ": Bad file descriptor")
  | close number => Act.modify fun s => s.redirect number none
  | here number text => do
    let word := (((← Act.get).texts.find? fun t => t.1 = text).map Prod.snd).getD []
    let content ← Expansion.text run fuel Expansion.hereText word
    let channel ← Act.openChannel (.bytes (toBytes content))
    Act.modify fun s => s.redirect number (some channel)

def carryOutAll (run : Option Command → Act Text) (fuel : Nat) : List Redirection → Act Unit
  | [] => pure ()
  | r :: others => do
    carryOut run fuel r
    carryOutAll run fuel others

def ofRedirects (run : Option Command → Act Text) (fuel : Nat) :
    List Redirect → Act (List Redirection)
  | [] => pure []
  | r :: others => do
    let first ← ofRedirect run fuel r
    return first :: (← ofRedirects run fuel others)

/--
Does some work with other channels; it is told whether they could be changed. The channels before
are kept meanwhile, and given back unless the answer says that they are not wanted any more.
-/
def around {α : Type} (run : Option Command → Act Text) (fuel : Nat) (redirects : List Redirect)
    (work : Bool → Act (α × Bool)) : Act α := do
  if redirects.isEmpty then return (← work true).1
  else
    let prepared ← ofRedirects run fuel redirects
    let before ← Act.get
    let replaced := before.channels.filter fun c => prepared.any fun r => r.number = c.1
    Act.modify fun s => { s with kept := replaced.map Prod.snd ++ s.kept }
    let giveBack : Act Unit := do
      Act.modify fun s =>
        let others := s.channels.filter fun c => !prepared.any fun r => r.number = c.1
        { s with channels := replaced ++ others, kept := before.kept }
      Act.settleChannels
    match ← Act.attempt (carryOutAll run fuel prepared) with
    | .error .fault => do
      giveBack
      return (← work false).1
    | .error h => Act.halt h
    | .ok _ => do
      Act.settleChannels
      match ← Act.attempt (work true) with
      | .ok (a, isFinal) => do
        if isFinal then
          Act.modify fun s => { s with kept := before.kept }
          Act.settleChannels
        else giveBack
        return a
      | .error h => do
        giveBack
        Act.halt h

end Redirection
end Shell
end ContractAssist
