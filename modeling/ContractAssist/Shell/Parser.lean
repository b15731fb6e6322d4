import ContractAssist.Shell.Reading

/-!
# Parser — from text to commands

* `Parser.pieces` reads the pieces of a word, `Parser.readToken` a token;
* `Parser.list` and the functions after it read commands;
* `parseCommand` reads the next command of a script.

Every function takes a bound on the depth of its recursion, which the length of the text exceeds
many times.
-/

namespace ContractAssist
namespace Shell

/-- In which way the pieces of a word are read. -/
inductive Style where
  | base
  | double
  | arithmetic
  | text
  deriving DecidableEq, Repr, Inhabited

/-- Where the pieces of a word stand. -/
structure Spot where
  style : Style
  braces : Bool
  -- do they stand between double quotes between braces?
  inner : Bool
  deriving DecidableEq, Repr, Inhabited

namespace Spot

def bare : Spot := ⟨.base, false, false⟩

def escapes (p : Spot) (c : Char) : Bool :=
  p.style = .base || c = '\\' || c = '\x60' || c = '$'
    || (c = '"' && !(p.style = .text && !p.braces)) || (c = '\x7d' && p.braces)

end Spot

def isBreak (c : Char) : Bool :=
  c = ' ' || c = '\t' || c = ';' || c = '&' || c = '|' || c = '<' || c = '>' || c = '(' || c = ')'

def isSpecial (c : Char) : Bool :=
  c.isDigit || c = '#' || c = '?' || c = '!' || c = '-' || c = '*' || c = '@' || c = '$'

def specialNames : List Text :=
  ([".", ":", "break", "continue", "eval", "exec", "exit", "export", "local", "readonly", "return",
    "set", "shift", "times", "trap", "unset"] : List String).map String.toList

def allArguments : Word :=
  [.quoted [.parameter ['@'] .plain]]

namespace Parser

def tooDeep {α : Type} : Parser α :=
  wrong "nested too deeply"

def hold : Parser Unit :=
  modify fun r => { r with isHeld := true }

def found (token : Token) : Parser Token := do
  modify fun r => { r with last := token }
  return token

def check (checks : Checks) : Parser Unit :=
  modify fun r => { r with checks := checks }

def unended {α : Type} (p : Spot) : Parser α :=
  match p.style with
  | .arithmetic => wrong "Missing '))'"
  | .double => wrong "Unterminated quoted string"
  | _ => wrong "Missing '\x7d'"

def endPieces (p : Spot) (sofar : Word) : Parser Word :=
  match p.style with
  | .arithmetic => unended p
  | .double => unended p
  | _ => if p.braces then unended p else return sofar

/-- Forgets the texts of aliases that were read; the next word may be an alias after a blank. -/
def finishUnfolding : Parser Unit := do
  let r ← get
  if r.unfolding.isEmpty then return ()
  else
    let left := r.rest.length
    let (going, gone) := r.unfolding.partition fun u => u.after < left
    set { r with
      unfolding := going
      checks := { r.checks with aliases := r.checks.aliases || gone.any Unfolding.blank } }

/-- The text that stands for an alias which is not being read already. -/
def aliasText? (word : Text) : Parser (Option Text) := do
  let r ← get
  if r.unfolding.any fun u => u.name = word then return none
  return (r.aliases.find? fun a => a.1 = word).map Prod.snd

/-- Puts the text of an alias in front of what is left. -/
def unfold (name text : Text) : Parser Unit :=
  modify fun r =>
    let blank := text.getLast? = some ' ' || text.getLast? = some '\t'
    { r with
      unfolding := ⟨name, r.rest.length, blank⟩ :: r.unfolding
      rest := text ++ r.rest }

/-- The head of a redirection, whose first character was read already. -/
def redirectHead (number : Option Nat) (c : Char) : Parser RedirectHead := do
  if c = '>' then
    let n := number.getD 1
    if ← skipIf '>' then return .file n .append
    if ← skipIf '|' then return .file n .clobber
    if ← skipIf '&' then return .duplicate n
    return .file n .write
  else
    let n := number.getD 0
    if ← skipIf '<' then return .here n (← skipIf '-')
    if ← skipIf '&' then return .duplicate n
    if ← skipIf '>' then return .file n .both
    return .file n .read

/-- The number in front of a redirection, if the characters before it are one. -/
def headNumber? (w : Word) : Option (Option Nat) :=
  match w with
  | [] => some none
  | [.literal false [c]] => if c.isDigit then some (some (c.toNat - 48)) else none
  | _ => none

def inBackground (line : Nat) : Command → Command
  | .pipeline commands _ => .pipeline commands true
  | .redirected line body redirects => .background line body redirects
  | c => .background line c []

mutual

/-- The pieces of a word from some spot on; `depth` parentheses are open in an expression. -/
def pieces : Nat → Spot → Nat → Word → Parser Word
  | 0, _, _, _ => tooDeep
  | fuel + 1, p, depth, sofar => do
    match ← nextJoined? with
    | none => endPieces p sofar
    | some '\n' =>
      if p.style = .base && !p.braces then
        unread '\n'
        return sofar
      else
        endLine
        pieces fuel p depth (Word.push (p.style ≠ .base) '\n' sofar)
    | some '\\' =>
      match ← next? with
      | none => pieces fuel p depth (Word.push true '\\' sofar)
      | some c =>
        if c = '\n' then endLine
        let sofar := if p.escapes c then sofar else Word.push true '\\' sofar
        pieces fuel p depth (Word.push true c sofar)
    | some '$' => do
      match ← dollar fuel p with
      | some piece => pieces fuel p depth (piece :: sofar)
      | none => pieces fuel p depth (Word.push (p.style ≠ .base) '$' sofar)
    | some '\x60' =>
      if (← get).checks.marks then pieces fuel p depth (Word.push true '\x60' sofar)
      else do
        let piece ← backquoted fuel p
        pieces fuel p depth (piece :: sofar)
    | some '"' =>
      match p.style with
      | .base => do
        let body ← pieces fuel ⟨.double, false, false⟩ 0 []
        pieces fuel p depth (.quoted (Word.ofReverse body) :: sofar)
      | .arithmetic => pieces fuel p depth (Word.push true '"' sofar)
      | _ =>
        if p.inner || (!p.braces && p.style = .double) then return sofar
        else if p.braces then do
          let body ← pieces fuel { p with inner := true } 0 []
          pieces fuel p depth (.quoted (Word.ofReverse body) :: sofar)
        else pieces fuel p depth (Word.push true '"' sofar)
    | some c =>
      if c = '\x7d' && p.braces && !p.inner then return sofar
      else
        match p.style with
        | .base =>
          if c = '\'' then do
            let sofar := match sofar with
              | .literal true t :: r => .literal true t :: r
              | r => .literal true [] :: r
            let length := (← get).rest.length
            pieces fuel p depth (← untilQuote (length + 1) sofar)
          else if isBreak c && !p.braces then do
            unread c
            return sofar
          else pieces fuel p depth (Word.push false c sofar)
        | .arithmetic =>
          if c = '(' then pieces fuel p (depth + 1) (Word.push true c sofar)
          else if c = ')' then do
            if 0 < depth then pieces fuel p (depth - 1) (Word.push true c sofar)
            else if ← skipIf ')' then return sofar
            else pieces fuel p depth (Word.push true c sofar)
          else pieces fuel p depth (Word.push true c sofar)
        | _ => pieces fuel p depth (Word.push true c sofar)

/-- What a dollar sign stands for, unless it stands for itself. -/
def dollar : Nat → Spot → Parser (Option Piece)
  | 0, _ => tooDeep
  | fuel + 1, p => do
    if (← get).checks.marks then return none
    match ← peekJoined? with
    | some '(' => do
      let _ ← nextJoined?
      if ← skipIf '(' then do
        let body ← pieces fuel ⟨.arithmetic, false, false⟩ 0 []
        return some (.arithmetic (Word.ofReverse body))
      else do
        let body ← parenthesised fuel
        return some (.substitution body)
    | some '\x7b' => do
      let _ ← nextJoined?
      return some (← braced fuel p)
    | some c =>
      if isNameStart c then do
        let length := (← get).rest.length
        return some (.parameter (← takeWhile isNamePart (length + 1) []) .plain)
      else if isSpecial c then do
        let _ ← nextJoined?
        return some (.parameter [c] .plain)
      else return none
    | none => return none

def parenthesised : Nat → Parser (Option Command)
  | 0 => tooDeep
  | fuel + 1 => do
    let due := (← get).due
    modify fun r => { r with due := [] }
    let body ← list fuel 2
    if (← readToken fuel) ≠ .closing then unexpected (some .closing)
    modify fun r => { r with
      texts := r.due.map (fun d => (d.number, [])) ++ r.texts
      due := due }
    return body

def backquoted : Nat → Spot → Parser Piece
  | 0, _ => tooDeep
  | fuel + 1, p => do
    let length := (← get).rest.length
    let text ← untilBackquote (p.style ≠ .base) (length + 1) []
    let outer ← get
    set { Reading.new text 1 false outer.aliases outer.made with texts := outer.texts }
    let body ← list fuel 2
    readTexts fuel
    modify fun inner => { outer with texts := inner.texts, made := inner.made }
    return .substitution body

def braced : Nat → Spot → Parser Piece
  | 0, _ => tooDeep
  | fuel + 1, p => do
    let length := (← get).rest.length
    match ← nextJoined? with
    | none => unended p
    | some c =>
      if isNameStart c then do
        unread c
        usage fuel p (← takeWhile isNamePart (length + 1) [])
      else if c.isDigit then do
        unread c
        usage fuel p (← takeWhile Char.isDigit (length + 1) [])
      else if c = '#' then do
        match ← peekJoined? with
        | none => unended p
        | some d =>
          if isNameStart d then measured fuel p (← takeWhile isNamePart (length + 1) [])
          else if d.isDigit then measured fuel p (← takeWhile Char.isDigit (length + 1) [])
          else if d = '\x7d' then usage fuel p ['#']
          else do
            let _ ← nextJoined?
            if (← peekJoined?) = some '\x7d' then
              if isSpecial d then measured fuel p [d] else misused fuel p [d]
            else do
              unread d
              usage fuel p ['#']
      else if c = '\x7d' then do
        unread c
        misused fuel p []
      else if isSpecial c then usage fuel p [c]
      else misused fuel p []

def measured : Nat → Spot → Text → Parser Piece
  | 0, _, _ => tooDeep
  | fuel + 1, p, name => do
    if ← skipIf '\x7d' then return .parameter name .length else misused fuel p name

/-- A parameter between braces that is used in a way that there is not. -/
def misused : Nat → Spot → Text → Parser Piece
  | 0, _, _ => tooDeep
  | fuel + 1, p, name => do
    let _ ← inBraces fuel p false
    return .parameter name .bad

def inBraces : Nat → Spot → Bool → Parser Word
  | 0, _, _ => tooDeep
  | fuel + 1, p, pattern => do
    let style := if pattern then .base else if p.style = .arithmetic then .double else p.style
    return Word.ofReverse (← pieces fuel ⟨style, true, false⟩ 0 [])

def usage : Nat → Spot → Text → Parser Piece
  | 0, _, _ => tooDeep
  | fuel + 1, p, name => do
    let empty ← skipIf ':'
    let orElse (action : Fallback) : Parser Piece := do
      return .parameter name (.orElse empty action (← inBraces fuel p false))
    let trimmed (front longest : Bool) : Parser Piece := do
      return .parameter name (.trimmed front longest (← inBraces fuel p true))
    match ← nextJoined? with
    | none => unended p
    | some '\x7d' => if empty then misused fuel p name else return .parameter name .plain
    | some '-' => orElse .replace
    | some '=' => orElse .assign
    | some '+' => orElse .invert
    | some '?' => orElse .fail
    | some '#' => if empty then misused fuel p name else trimmed true (← skipIf '#')
    | some '%' => if empty then misused fuel p name else trimmed false (← skipIf '%')
    | some _ => misused fuel p name

def readTexts : Nat → Parser Unit
  | 0 => tooDeep
  | fuel + 1 => do
    let r ← get
    match r.due with
    | [] => return ()
    | d :: others => do
      let cut := cutText d (r.rest.length + 1) true r.rest
      if !cut.found && r.isOpen then throw .unfinished
      let after := { r with rest := cut.rest, line := r.line + cut.lines, due := others }
      if d.plain then
        set { after with texts := (d.number, [.literal true cut.text]) :: r.texts }
      else do
        let inside := Reading.new cut.text r.line false r.aliases r.made
        set { inside with texts := r.texts }
        let body ← pieces fuel ⟨.text, false, false⟩ 0 []
        let inner ← get
        set { after with
          texts := (d.number, Word.ofReverse body) :: inner.texts
          made := inner.made }
      readTexts fuel

def wordToken : Nat → Parser Token
  | 0 => tooDeep
  | fuel + 1 => do
    let w := Word.ofReverse (← pieces fuel .bare 0 [])
    let next ← match (← get).rest with
      | c :: _ => pure (if c = '<' || c = '>' then some c else none)
      | [] => pure none
    match next, headNumber? w with
    | some c, some number => do
      let _ ← nextJoined?
      let head ← redirectHead number c
      modify fun r => { r with head := head }
      found .redirection
    | _, _ => do
      modify fun r => { r with word := w }
      found .word

def rawToken : Nat → Parser Token
  | 0 => tooDeep
  | fuel + 1 => do
    if (← get).isHeld then
      modify fun r => { r with isHeld := false }
      return (← get).last
    else
      match ← nextJoined? with
      | none => found .ending
      | some c =>
        if c = ' ' || c = '\t' then rawToken fuel
        else if c = '#' then do
          let length := (← get).rest.length
          skipComment (length + 1)
          rawToken fuel
        else if c = '\n' then do
          endLine
          found .newline
        else if c = '&' then do
          if ← skipIf '&' then found .both else found .ampersand
        else if c = '|' then do
          if ← skipIf '|' then found .either else found .pipe
        else if c = ';' then do
          if ← skipIf ';' then found .armEnd else found .semicolon
        else if c = '(' then found .opening
        else if c = ')' then found .closing
        else do
          unread c
          wordToken fuel

def tokenOfAnyLine : Nat → Parser Token
  | 0 => tooDeep
  | fuel + 1 => do
    match ← rawToken fuel with
    | .newline => do
      readTexts fuel
      check .none
      tokenOfAnyLine fuel
    | token => return token

/-- Reads a token, with the given checks and those that are due. -/
def tokenWith : Nat → Checks → Parser Token
  | 0, _ => tooDeep
  | fuel + 1, checks => do
    let token ← if checks.newlines then tokenOfAnyLine fuel else rawToken fuel
    finishUnfolding
    let r ← get
    let checks := { checks with aliases := checks.aliases || r.checks.aliases }
    check .none
    match token, Word.plain? r.word with
    | .word, some text => do
      if checks.keywords && Token.keywords.contains text then found (.keyword text)
      else
        let replacement ← if checks.aliases then aliasText? text else pure none
        match replacement with
        | some replacement => do
          unfold text replacement
          tokenWith fuel checks
        | none => return token
    | _, _ => return token

def readToken : Nat → Parser Token
  | 0 => tooDeep
  | fuel + 1 => do tokenWith fuel (← get).checks

def expect : Nat → Token → Parser Unit
  | 0, _ => tooDeep
  | fuel + 1, token => do
    if (← readToken fuel) ≠ token then unexpected (some token)

/--
Reads a list of commands: one line if `kind` is 1, else what ends in a closing token; only if `kind`
is 2, there may be none.
-/
def list : Nat → Nat → Parser (Option Command)
  | 0, _ => tooDeep
  | fuel + 1, kind => listAfter fuel (kind = 1) (kind = 2) none

def listAfter : Nat → Bool → Bool → Option Command → Parser (Option Command)
  | 0, _, _, _ => tooDeep
  | fuel + 1, oneLine, mayEnd, before => do
    check { Checks.command with newlines := !oneLine }
    let token ← readToken fuel
    match token with
    | .newline => do
      readTexts fuel
      return before
    | .ending => do
      readTexts fuel
      modify fun r => { r with last := .ending }
      hold
      return before
    | _ => do
      hold
      if mayEnd && token.endsList then return before
      let line := (← get).line
      let c ← andOr fuel
      let token ← readToken fuel
      let c := if token = .ampersand then inBackground line c else c
      let sofar := match before with
        | none => c
        | some b => .sequence b c
      match token with
      | .ending => do
        readTexts fuel
        modify fun r => { r with last := .ending }
        hold
        return some sofar
      | .newline => do
        hold
        listAfter fuel oneLine (mayEnd || !oneLine) (some sofar)
      | .ampersand => listAfter fuel oneLine (mayEnd || !oneLine) (some sofar)
      | .semicolon => listAfter fuel oneLine (mayEnd || !oneLine) (some sofar)
      | _ => do
        if oneLine then unexpected none
        hold
        return some sofar

def andOr : Nat → Parser Command
  | 0 => tooDeep
  | fuel + 1 => do andOrAfter fuel (← pipeline fuel)

def andOrAfter : Nat → Command → Parser Command
  | 0, _ => tooDeep
  | fuel + 1, first => do
    match ← readToken fuel with
    | .both => do
      check .anyLine
      andOrAfter fuel (.both first (← pipeline fuel))
    | .either => do
      check .anyLine
      andOrAfter fuel (.either first (← pipeline fuel))
    | _ => do
      hold
      return first

def pipeline : Nat → Parser Command
  | 0 => tooDeep
  | fuel + 1 => do
    let inverse ← match ← readToken fuel with
      | .keyword ['!'] => do
        check .command
        pure true
      | _ => do
        hold
        pure false
    let first ← command fuel
    let others ← pipelineAfter fuel
    let c := if others.isEmpty then first else .pipeline (first :: others) false
    return if inverse then .inverse c else c

def pipelineAfter : Nat → Parser (List Command)
  | 0 => tooDeep
  | fuel + 1 => do
    match ← readToken fuel with
    | .pipe => do
      check .anyLine
      let c ← command fuel
      return c :: (← pipelineAfter fuel)
    | _ => do
      hold
      return []

/-- Reads a list that has to be there, after which a token is wanted. -/
def body : Nat → Token → Parser Command
  | 0, _ => tooDeep
  | fuel + 1, wanted => do
    match ← list fuel 0 with
    | some c => return c
    | none => unexpected (some wanted)

def command : Nat → Parser Command
  | 0 => tooDeep
  | fuel + 1 => do
    let line := (← get).line
    match ← readToken fuel with
    | .word => do
      hold
      simple fuel
    | .redirection => do
      hold
      simple fuel
    | .opening => do
      let inside ← body fuel .closing
      expect fuel .closing
      return .subshell line inside (← redirects fuel)
    | .keyword name => do
      let c ← match String.ofList name with
        | "\x7b" => do
          let inside ← body fuel (.keyword ['\x7d'])
          expect fuel (.keyword ['\x7d'])
          pure inside
        | "if" => do
          let c ← branch fuel
          expect fuel (.keyword ['f', 'i'])
          pure c
        | "while" => loop fuel false
        | "until" => loop fuel true
        | "for" => each fuel line
        | "case" => select fuel line
        | _ => unexpected none
      match ← redirects fuel with
      | [] => return c
      | found => return .redirected line c found
    | _ => unexpected none

/-- Reads a branch after its first keyword, up to its last. -/
def branch : Nat → Parser Command
  | 0 => tooDeep
  | fuel + 1 => do
    let condition ← body fuel (.keyword ("then" : Text))
    expect fuel (.keyword ("then" : Text))
    let inside ← body fuel (.keyword ['f', 'i'])
    match ← readToken fuel with
    | .keyword ['e', 'l', 'i', 'f'] => return .branch condition inside (some (← branch fuel))
    | .keyword ['e', 'l', 's', 'e'] => do
      let otherwise ← body fuel (.keyword ['f', 'i'])
      return .branch condition inside (some otherwise)
    | _ => do
      hold
      return .branch condition inside none

def loop : Nat → Bool → Parser Command
  | 0, _ => tooDeep
  | fuel + 1, inverted => do
    let condition ← body fuel (.keyword ("do" : Text))
    expect fuel (.keyword ("do" : Text))
    let inside ← body fuel (.keyword ("done" : Text))
    expect fuel (.keyword ("done" : Text))
    return .loop inverted condition inside

def each : Nat → Nat → Parser Command
  | 0, _ => tooDeep
  | fuel + 1, line => do
    let token ← readToken fuel
    match token, Word.plain? (← get).word with
    | .word, some name => do
      if !isName name then wrong "Bad for loop variable"
      check .anyLine
      let ws ← match ← readToken fuel with
        | .keyword ['i', 'n'] => do
          let ws ← words fuel
          if (← get).last ≠ .newline && (← get).last ≠ .semicolon then unexpected none
          pure ws
        | .semicolon => pure [allArguments]
        | _ => do
          hold
          pure [allArguments]
      check .anyLine
      expect fuel (.keyword ("do" : Text))
      let inside ← body fuel (.keyword ("done" : Text))
      expect fuel (.keyword ("done" : Text))
      return .each line name ws inside
    | _, _ => wrong "Bad for loop variable"

def words : Nat → Parser (List Word)
  | 0 => tooDeep
  | fuel + 1 => do
    match ← readToken fuel with
    | .word => do
      let w := (← get).word
      return w :: (← words fuel)
    | _ => return []

def select : Nat → Nat → Parser Command
  | 0, _ => tooDeep
  | fuel + 1, line => do
    if (← readToken fuel) ≠ .word then unexpected (some .word)
    let subject := (← get).word
    check .anyLine
    expect fuel (.keyword ("in" : Text))
    check ⟨true, true, false, false⟩
    let _ ← readToken fuel
    return .select line subject (← arms fuel)

/-- Reads the arms of a choice, whose first token was read, up to its last keyword. -/
def arms : Nat → Parser (List (List Word × Option Command))
  | 0 => tooDeep
  | fuel + 1 => do
    if (← get).last = .keyword ("esac" : Text) then return []
    if (← get).last = .opening then
      let _ ← readToken fuel
    let found ← patterns fuel
    if (← get).last ≠ .closing then unexpected (some .closing)
    let inside ← list fuel 2
    check ⟨true, true, false, false⟩
    match ← readToken fuel with
    | .armEnd => do
      check ⟨true, true, false, false⟩
      let _ ← readToken fuel
      return (found, inside) :: (← arms fuel)
    | .keyword ['e', 's', 'a', 'c'] => return [(found, inside)]
    | _ => unexpected (some .armEnd)

/-- Reads the patterns of an arm, the first of which was read, and the token after them. -/
def patterns : Nat → Parser (List Word)
  | 0 => tooDeep
  | fuel + 1 => do
    let w := (← get).word
    match ← readToken fuel with
    | .pipe => do
      let _ ← readToken fuel
      return w :: (← patterns fuel)
    | _ => return [w]

def target : Nat → Parser Redirect
  | 0 => tooDeep
  | fuel + 1 => do
    let head := (← get).head
    match head with
    | .here _ _ => check { Checks.none with marks := true }
    | _ => pure ()
    if (← readToken fuel) ≠ .word then unexpected none
    let w := (← get).word
    match head with
    | .file number mode => return .file number mode w
    | .duplicate number => return .duplicate number w
    | .here number indented => do
      let r ← get
      let mark := Word.characters (fuel + 1) w
      let d : DueText := ⟨r.made, mark, indented, Word.isQuoted w⟩
      set { r with due := r.due ++ [d], made := r.made + 1 }
      return .here number d.number

def redirects : Nat → Parser (List Redirect)
  | 0 => tooDeep
  | fuel + 1 => do
    check .command
    redirectsAfter fuel

def redirectsAfter : Nat → Parser (List Redirect)
  | 0 => tooDeep
  | fuel + 1 => do
    match ← readToken fuel with
    | .redirection => do
      let first ← target fuel
      return first :: (← redirectsAfter fuel)
    | _ => do
      hold
      return []

def simple : Nat → Parser Command
  | 0 => tooDeep
  | fuel + 1 => do
    let line := (← get).line
    simpleAfter fuel line [] [] []

/-- Reads the rest of a simple command; what was read is in reverse. -/
def simpleAfter : Nat → Nat → List Word → List Word → List Redirect → Parser Command
  | 0, _, _, _, _ => tooDeep
  | fuel + 1, line, assignments, words, redirects => do
    check { Checks.none with aliases := words.isEmpty }
    let token ← readToken fuel
    match token, words with
    | .word, [] => do
      let w := (← get).word
      if Word.isAssignment w then simpleAfter fuel line (w :: assignments) words redirects
      else simpleAfter fuel line assignments [w] redirects
    | .word, _ => do
      let w := (← get).word
      simpleAfter fuel line assignments (w :: words) redirects
    | .redirection, _ => do
      let first ← target fuel
      simpleAfter fuel line assignments words (first :: redirects)
    | .opening, [name] =>
      if assignments.isEmpty && redirects.isEmpty then function fuel name
      else do
        hold
        return .simple line assignments.reverse words.reverse redirects.reverse
    | _, _ => do
      hold
      return .simple line assignments.reverse words.reverse redirects.reverse

def function : Nat → Word → Parser Command
  | 0, _ => tooDeep
  | fuel + 1, word => do
    expect fuel .closing
    match Word.plain? word with
    | some name => do
      if !isName name || specialNames.contains name then wrong "Bad function name"
      check .anyLine
      return .define name (← command fuel)
    | none => wrong "Bad function name"

end

end Parser

/-- A command that was read, and what there is to know about the text after it. -/
structure Parsed where
  command : Option Command
  isOver : Bool
  wasOver : Bool
  rest : Text
  line : Nat
  texts : List (Nat × Word)
  made : Nat

def parseCommand (r : Reading) : Except Unreadable Parsed := do
  let unfolded := (r.aliases.flatMap Prod.snd).length
  let fuel := 16 * (r.rest.length + 1) * (unfolded + 1) + 256
  let (command, after) ← (Parser.list fuel 1).run r
  let isOver := after.isHeld && after.last = .ending
  let wasOver := isOver && command.isNone
  return ⟨command, isOver, wasOver, after.rest, after.line, after.texts, after.made⟩

end Shell
end ContractAssist
