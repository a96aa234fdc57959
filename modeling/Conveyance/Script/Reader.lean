import Conveyance.Script.Command

/-!
# Script/Reader — a script read into commands

`Lexeme.read?` cuts a script into words and operators, `Command.readAll?` reads commands from them.
Comments go to the end of their line, a backslash takes the next character as it is, and **a script
that cannot be read is refused as a whole**.  Both run on an allowance of steps that the length of
their input cannot exceed.
-/

namespace Conveyance

/-! ## Words and operators -/

/-- A word or an operator. -/
inductive Lexeme where
  | word (word : Word)
  /-- The end of a command. -/
  | stop
  | andThen
  | orElse
  | pipe
  | into (descriptor : Nat) (appending : Bool)
  | fromFile
  | like (descriptor other : Nat)
  deriving DecidableEq, Repr

namespace Lexeme

/-- The character opens a group. -/
def isOpening (c : Char) : Bool := c == Char.ofNat 0x7B

/-- The character closes a group. -/
def isClosing (c : Char) : Bool := c == Char.ofNat 0x7D

/-- The character may stand in the name of a variable. -/
def isNameChar (c : Char) : Bool := c.isAlphanum || c == '_'

/-- The character names a parameter by itself. -/
def isSpecial (c : Char) : Bool :=
  c.isDigit || c == '#' || c == '?' || c == '$' || c == '@' || c == '*'

/-- The name of a value after a dollar sign. -/
def readValue? : Text → Option (WordPiece × Text)
  | [] => some (.text ['$'], [])
  | c :: t =>
    if isOpening c then
      match t.dropWhile (!isClosing ·) with
      | [] => none
      | _ :: rest => some (.value (t.takeWhile (!isClosing ·)), rest)
    else if c == '(' then none
    else if isSpecial c then some (.value [c], t)
    else if isNameChar c then
      some (.value ((c :: t).takeWhile isNameChar), (c :: t).dropWhile isNameChar)
    else some (.text ['$'], c :: t)

/-- One more piece at the end of a word; texts grow together. -/
def addPiece (pieces : List WordPiece) (p : WordPiece) : List WordPiece :=
  match pieces.getLast?, p with
  | some (.text t), .text u => pieces.dropLast ++ [.text (t ++ u)]
  | _, _ => pieces ++ [p]

/-- One more character at the end of a word. -/
def addChar (pieces : List WordPiece) (c : Char) : List WordPiece := addPiece pieces (.text [c])

/-- What double quotes hold, up to the closing one. -/
def readDouble? : (steps : Nat) → List WordPiece → Text → Option (List WordPiece × Text)
  | 0, _, _ => none
  | _ + 1, _, [] => none
  | _ + 1, pieces, '"' :: t => some (pieces, t)
  | steps + 1, pieces, '\\' :: c :: t =>
    if c == '\n' then readDouble? steps pieces t
    else if c == '$' || c == '"' || c == '\\' || c == Char.ofNat 0x60 then
      readDouble? steps (addChar pieces c) t
    else readDouble? steps (addChar (addChar pieces '\\') c) t
  | steps + 1, pieces, '$' :: t => do
    let (p, t) ← readValue? t
    readDouble? steps (addPiece pieces p) t
  | steps + 1, pieces, c :: t =>
    if c == Char.ofNat 0x60 then none else readDouble? steps (addChar pieces c) t

/-- The character ends a word. -/
def endsWord (c : Char) : Bool :=
  c == ' ' || c == '\t' || c == '\n' || c == ';' || c == '&' || c == '|' || c == '<' || c == '>' ||
    c == '(' || c == ')'

/-- A word, up to a character that ends it. -/
def readWord? : (steps : Nat) → Word → Text → Option (Word × Text)
  | 0, _, _ => none
  | _ + 1, w, [] => some (w, [])
  | steps + 1, w, '\'' :: t =>
    match t.dropWhile (· != '\'') with
    | [] => none
    | _ :: rest =>
      let held := t.takeWhile (· != '\'')
      readWord? steps ⟨if held.isEmpty then w.pieces else addPiece w.pieces (.text held), true⟩ rest
  | steps + 1, w, '"' :: t => do
    let (pieces, t) ← readDouble? (t.length + 1) w.pieces t
    readWord? steps ⟨pieces, true⟩ t
  | steps + 1, w, '\\' :: c :: t =>
    if c == '\n' then readWord? steps w t else readWord? steps ⟨addChar w.pieces c, true⟩ t
  | steps + 1, w, '$' :: t => do
    let (p, t) ← readValue? t
    readWord? steps { w with pieces := addPiece w.pieces p } t
  | steps + 1, w, '*' :: t => readWord? steps { w with pieces := w.pieces ++ [.star] } t
  | steps + 1, w, c :: t =>
    if endsWord c then some (w, c :: t)
    else if c == Char.ofNat 0x60 then none
    else readWord? steps { w with pieces := addChar w.pieces c } t

/-- A redirection operator, after the descriptor that it is for. -/
def readInto (descriptor : Nat) : Text → Lexeme × Text
  | '>' :: t => (.into descriptor true, t)
  | '&' :: c :: t =>
    if c.isDigit then (.like descriptor (c.toNat - 48), t) else (.into descriptor false, '&' :: c :: t)
  | t => (.into descriptor false, t)

/-- **The words and operators of a script.** -/
def readFrom? : (steps : Nat) → Text → Option (List Lexeme)
  | 0, _ => none
  | _ + 1, [] => some []
  | steps + 1, c :: t =>
    let go (l : Lexeme) (t : Text) : Option (List Lexeme) := (readFrom? steps t).map (l :: ·)
    if c == ' ' || c == '\t' then readFrom? steps t
    else if c == '\n' || c == ';' then go .stop t
    else if c == '#' then readFrom? steps (t.dropWhile (· != '\n'))
    else match c, t with
      | '&', '&' :: t => go .andThen t
      | '|', '|' :: t => go .orElse t
      | '|', t => go .pipe t
      | '<', t => go .fromFile t
      | '>', t => go (readInto 1 t).1 (readInto 1 t).2
      | '1', '>' :: t => go (readInto 1 t).1 (readInto 1 t).2
      | '2', '>' :: t => go (readInto 2 t).1 (readInto 2 t).2
      | '\\', '\n' :: t => readFrom? steps t
      | _, _ =>
        if endsWord c then none
        else do
          let (w, t) ← readWord? (t.length + 2) ⟨[], false⟩ (c :: t)
          go (.word w) t

/-- The words and operators of a script. -/
def read? (t : Text) : Option (List Lexeme) := readFrom? (t.length + 1) t

end Lexeme

/-! ## Commands -/

namespace Command

/-- The word as a keyword. -/
def keyword? : Lexeme → Option String
  | .word w => w.bare?.map String.ofList
  | _ => none

/-- The keywords that end a list of commands. -/
def isEnd (l : Lexeme) : Bool :=
  match keyword? l with
  | some k => k = "done" || k = "do" || k = "then" || k = "else" || k = "elif" || k = "fi" ||
      k = String.ofList [Char.ofNat 0x7D]
  | none => false

/-- The lexemes without the ends of commands at the start. -/
def skipStops (ls : List Lexeme) : List Lexeme := ls.dropWhile (· == .stop)

/-- A given keyword at the start. -/
def expect? (k : String) : List Lexeme → Option (List Lexeme)
  | l :: ls => if keyword? l = some k then some ls else none
  | [] => none

/-- The redirections at the start. -/
def readRedirections : List Lexeme → List Redirection × List Lexeme
  | .into d appending :: .word w :: ls =>
    let (rs, ls) := readRedirections ls
    (.into d w appending :: rs, ls)
  | .fromFile :: .word w :: ls =>
    let (rs, ls) := readRedirections ls
    (.fromFile w :: rs, ls)
  | .like d other :: ls =>
    let (rs, ls) := readRedirections ls
    (.like d other :: rs, ls)
  | ls => ([], ls)

/-- The words and redirections of a simple command. -/
def readSimple : List Lexeme → List Word × List Redirection × List Lexeme
  | .word w :: ls =>
    let (ws, rs, ls) := readSimple ls
    (w :: ws, rs, ls)
  | .into d appending :: .word w :: ls =>
    let (ws, rs, ls) := readSimple ls
    (ws, .into d w appending :: rs, ls)
  | .fromFile :: .word w :: ls =>
    let (ws, rs, ls) := readSimple ls
    (ws, .fromFile w :: rs, ls)
  | .like d other :: ls =>
    let (ws, rs, ls) := readSimple ls
    (ws, .like d other :: rs, ls)
  | ls => ([], [], ls)

/-- The words at the start. -/
def readWords : List Lexeme → List Word × List Lexeme
  | .word w :: ls =>
    let (ws, ls) := readWords ls
    (w :: ws, ls)
  | ls => ([], ls)

mutual

/-- Commands up to a keyword that ends them. -/
def readList? : (steps : Nat) → List Lexeme → Option (List Command × List Lexeme)
  | 0, _ => none
  | steps + 1, ls =>
    match skipStops ls with
    | [] => some ([], [])
    | l :: ls =>
      if isEnd l then some ([], l :: ls)
      else do
        let (c, ls) ← readChain? steps (l :: ls)
        let (cs, ls) ← readList? steps ls
        return (c :: cs, ls)

/-- Commands joined by connectives. -/
def readChain? : (steps : Nat) → List Lexeme → Option (Command × List Lexeme)
  | 0, _ => none
  | steps + 1, ls => do
    let (c, ls) ← readPipe? steps ls
    continueChain? steps c ls

/-- What is joined to a command. -/
def continueChain? : (steps : Nat) → Command → List Lexeme → Option (Command × List Lexeme)
  | 0, _, _ => none
  | steps + 1, c, ls =>
    match ls with
    | .andThen :: ls => do
      let (d, ls) ← readPipe? steps (skipStops ls)
      continueChain? steps (.both c d) ls
    | .orElse :: ls => do
      let (d, ls) ← readPipe? steps (skipStops ls)
      continueChain? steps (.either c d) ls
    | .stop :: ls => some (c, ls)
    | [] => some (c, [])
    | l :: ls => if isEnd l then some (c, l :: ls) else none

/-- Commands that read what others write. -/
def readPipe? : (steps : Nat) → List Lexeme → Option (Command × List Lexeme)
  | 0, _ => none
  | steps + 1, ls => do
    match expect? "!" ls with
    | some ls =>
      let (c, ls) ← readPipe? steps ls
      return (.opposite c, ls)
    | none =>
      let (c, ls) ← readOne? steps ls
      match ls with
      | .pipe :: ls =>
        let (d, ls) ← readPipe? steps (skipStops ls)
        return (.pipe c d, ls)
      | ls => return (c, ls)

/-- A single command. -/
def readOne? : (steps : Nat) → List Lexeme → Option (Command × List Lexeme)
  | 0, _ => none
  | steps + 1, ls => do
    match ls with
    | [] => none
    | l :: rest =>
      if keyword? l = some "for" then
        match rest with
        | .word name :: rest =>
          let (words, rest) := readWords (← expect? "in" rest)
          let (body, rest) ← readList? steps (← expect? "do" (skipStops rest))
          let (rs, rest) := readRedirections (← expect? "done" rest)
          return (.loop (← name.bare?) words body rs, rest)
        | _ => none
      else if keyword? l = some "if" then readBranch? steps rest
      else if keyword? l = some (String.ofList [Char.ofNat 0x7B]) then
        let (body, rest) ← readList? steps rest
        let (rs, rest) := readRedirections (← expect? (String.ofList [Char.ofNat 0x7D]) rest)
        return (.group body rs, rest)
      else
        let (ws, rs, rest) := readSimple (l :: rest)
        if ws.isEmpty && rs.isEmpty then none else return (.simple ws rs, rest)

/-- What follows an if. -/
def readBranch? : (steps : Nat) → List Lexeme → Option (Command × List Lexeme)
  | 0, _ => none
  | steps + 1, ls => do
    let (condition, ls) ← readList? steps ls
    let (body, ls) ← readList? steps (← expect? "then" ls)
    match expect? "elif" ls with
    | some ls =>
      let (c, ls) ← readBranch? steps ls
      return (.branch condition body [c] [], ls)
    | none =>
      let (alternative, ls) ← match expect? "else" ls with
        | some ls => readList? steps ls
        | none => some ([], ls)
      let (rs, ls) := readRedirections (← expect? "fi" ls)
      return (.branch condition body alternative rs, ls)

end

/-- **The commands of a script.** -/
def readAll? (script : Text) : Option (List Command) := do
  let ls ← Lexeme.read? script
  let (cs, rest) ← readList? (6 * ls.length + 6) ls
  if rest.isEmpty then return cs else none

end Command

end Conveyance
