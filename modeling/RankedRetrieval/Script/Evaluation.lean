import RankedRetrieval.Script.Builtin

/-!
# Running scripts

## Main Definitions

* `Script.Shell.run` — the state after some commands
* `Script.Shell.runSource` — the state after the commands of a text
* `Script.Shell.runShell` — the state after another script
* `Script.host` — the host on which scripts are programs

## Design Notes

A number of steps bounds every run.  A script that takes more of them ends with a status that is
not zero.
-/

namespace RankedRetrieval.Script

namespace Shell

mutual
/-- The pieces of a part of a word, and the state after finding its value.  The first argument of
this and the following functions bounds the number of steps. -/
def partAtoms : Nat → WordPart → Shell → List Atom × Shell
  | 0, _, s => ([], s.exhausted)
  | fuel + 1, part, s =>
    match part with
    | .literal text quoted => ((if quoted then [.quotes] else []) ++ atoms quoted false text, s)
    | .parameter name quoted =>
      if name = "@" || (name = "*" && !quoted) then (argumentAtoms quoted s.arguments, s)
      else
        match s.value? name with
        | some value => (atoms quoted (!quoted) value, s)
        | none => ([], if s.modes.names && name ≠ "*" && name ≠ "!" then s.ends 2 else s)
    | .modified name modifier text quoted => modifiedAtoms fuel name modifier text quoted s
    | .output source quoted =>
      let (text, after) := substitute fuel source s
      (atoms quoted (!quoted) text, after)
    | .value text quoted =>
      let (expression, after) := quotedText fuel text s
      match readExpression? expression >>= fun e => e.value? after.bindings with
      | some (n, bindings) => (atoms quoted (!quoted) n.toInt.repr, { after with bindings })
      | none => ([], after.ends 2)

/-- The pieces of a parameter with a modifier. -/
def modifiedAtoms : Nat → String → String → String → Bool → Shell → List Atom × Shell
  | 0, _, _, _, _, s => ([], s.exhausted)
  | fuel + 1, name, modifier, text, quoted, s =>
    let value? := s.value? name
    let value := value?.getD ""
    let here :=
      if name = "@" then argumentAtoms quoted s.arguments else atoms quoted (!quoted) value
    let absent := value?.isNone || (modifier.toList.head? = some ':' && value = "")
    match modifier with
    | "length" => (atoms quoted (!quoted) (Nat.repr value.length), s)
    | "-" | ":-" => if absent then innerAtoms fuel text quoted s else (here, s)
    | "+" | ":+" => if absent then ([], s) else innerAtoms fuel text quoted s
    | "=" | ":=" =>
      if absent then
        let (pieces, after) := innerAtoms fuel text quoted s
        (pieces, after.assign name (plainText pieces))
      else (here, s)
    | "?" | ":?" => if absent then ([], s.ends 2) else (here, s)
    | _ =>
      if value?.isNone && s.modes.names then ([], s.ends 2)
      else
        match wholeWord? .bare text with
        | none => ([], s.ends 2)
        | some w =>
          let (pieces, after) := wordAtoms fuel w s
          let trimmed := Pattern.trim modifier (Pattern.ofMarked (marked pieces)) value.toList
          (atoms quoted (!quoted) (String.ofList trimmed), after)

/-- The pieces of a text that stands in braces. -/
def innerAtoms : Nat → String → Bool → Shell → List Atom × Shell
  | 0, _, _, s => ([], s.exhausted)
  | fuel + 1, text, quoted, s =>
    let place := if quoted && !text.toList.contains '"' then Place.document else Place.bare
    match wholeWord? place text with
    | none => ([], s.ends 2)
    | some w =>
      let (pieces, after) := wordAtoms fuel w s
      let adapt (piece : Atom) : Atom :=
        match piece with
        | .char c q _ => .char c (q || quoted) (!(q || quoted))
        | other => other
      (pieces.map adapt, after)

/-- The pieces of a word. -/
def wordAtoms : Nat → Word → Shell → List Atom × Shell
  | 0, _, s => ([], s.exhausted)
  | _ + 1, [], s => ([], s)
  | fuel + 1, part :: rest, s =>
    let (pieces, after) := partAtoms fuel part s
    if !after.goesOn then (pieces, after)
    else
      let (others, final) := wordAtoms fuel rest after
      (pieces ++ others, final)

/-- The text of a word that is not separated into fields. -/
def wordText : Nat → Word → Shell → String × Shell
  | 0, _, s => ("", s.exhausted)
  | fuel + 1, w, s =>
    let (pieces, after) := wordAtoms fuel w s
    (plainText pieces, after)

/-- The text of something that stands as if in quotes. -/
def quotedText : Nat → String → Shell → String × Shell
  | 0, _, s => ("", s.exhausted)
  | fuel + 1, text, s =>
    match wholeWord? .document text with
    | some w => wordText fuel w s
    | none => ("", s.ends 2)

/-- The arguments that words stand for. -/
def wordFields : Nat → List Word → Shell → List String × Shell
  | 0, _, s => ([], s.exhausted)
  | _ + 1, [], s => ([], s)
  | fuel + 1, w :: rest, s =>
    let (pieces, after) := wordAtoms fuel w s
    if !after.goesOn then ([], after)
    else
      let vanishes := after.arguments.isEmpty && w.contains (.parameter "@" true)
      let kept := if vanishes then pieces.filter (· ≠ .quotes) else pieces
      let here := (after.fields kept).flatMap after.expandPaths
      let (others, final) := wordFields fuel rest after
      (here ++ others, final)

/-- The text that commands write, without the ends of lines at its end. -/
def substitute : Nat → String → Shell → String × Shell
  | 0, _, s => ("", s.exhausted)
  | fuel + 1, source, s =>
    let inner := finish fuel (runSource fuel source
      ({ s.confined with collected := [] }.direct 1 .collected))
    let text := (textOf (inner.collectedBytes.filter (· ≠ 0))).toList
    let kept := (text.reverse.dropWhile (· = '\n')).reverse
    let after := s.confinedTo inner
    (String.ofList kept, { after with
      collected := s.collected
      status := s.status
      substituted? := some inner.status })

/-- Opens the files of redirections, from left to right, and says whether that succeeds. -/
def redirect : Nat → List Redirection → Shell → Bool × Shell
  | 0, _, s => (false, s.exhausted)
  | _ + 1, [], s => (true, s)
  | fuel + 1, first :: rest, s =>
    let (opened?, after) :=
      match first with
      | .source w =>
        let (path, after) := wordText fuel w s
        (after.read? path, after)
      | .document w =>
        let (text, after) := wordText fuel w s
        (some { after with input := .text (Text.encode text) }, after)
      | .target stream w =>
        let (path, after) := wordText fuel w s
        (after.open? stream false path, after)
      | .tail stream w =>
        let (path, after) := wordText fuel w s
        (after.open? stream true path, after)
      | .duplicate stream w =>
        let (other, after) := wordText fuel w s
        (after.duplicate? stream other, after)
    match opened? with
    | some opened => if opened.goesOn then redirect fuel rest opened else (false, opened)
    | none => (false, after)

/-- The state in which variables have the values of some words, and the values that they had
before. -/
def bind : Nat → List (String × Word) → Shell → List (String × Option String) × Shell
  | 0, _, s => ([], s.exhausted)
  | _ + 1, [], s => ([], s)
  | fuel + 1, (name, w) :: rest, s =>
    let (text, after) := wordText fuel w s
    let (others, final) := bind fuel rest (after.assign name text)
    ((name, after.bindings.get? name) :: others, final)

/-- The state after some commands. -/
def run : Nat → List Command → Shell → Shell
  | 0, _, s => s.exhausted
  | _ + 1, [], s => s
  | fuel + 1, c :: rest, s =>
    let after := runCommand fuel c s
    if after.goesOn then run fuel rest after else after

/-- The state after commands whose success is asked for. -/
def test : Nat → List Command → Shell → Shell
  | 0, _, s => s.exhausted
  | fuel + 1, commands, s => { run fuel commands { s with tested := true } with tested := s.tested }

/-- The state after a command. -/
def runCommand : Nat → Command → Shell → Shell
  | 0, _, s => s.exhausted
  | fuel + 1, c, s =>
    match c with
    | .simple bindings words => (runSimple fuel bindings words [] s).checked
    | .redirected (.simple bindings words) redirections =>
      (runSimple fuel bindings words redirections s).checked
    | .redirected inner redirections =>
      let (opened, inside) := redirect fuel redirections s
      if opened then (runCommand fuel inner inside).withStreamsOf s redirections
      else ((inside.withStreamsOf s redirections).withStatus 2).checked
    | .pipe writer reader =>
      let first := run fuel [writer] ({ s.confined with collected := [] }.direct 1 .collected)
      let between := { s.confinedTo first with collected := s.collected }
      let second := run fuel [reader] { between.confined with input := .text first.collectedBytes }
      let after := between.confinedTo second
      { after with input := between.input }.checked
    | .negate inner =>
      let after := test fuel [inner] s
      if after.goesOn then after.withStatus (if after.status = 0 then 1 else 0) else after
    | .both first second =>
      let after := test fuel [first] s
      if after.goesOn && after.status = 0 then runCommand fuel second after else after
    | .either first second =>
      let after := test fuel [first] s
      if after.goesOn && after.status ≠ 0 then runCommand fuel second after else after
    | .group body => run fuel body s
    | .confine body => (s.confinedTo (finish fuel (run fuel body s.confined))).checked
    | .choose condition body otherwise =>
      let after := test fuel condition s
      if !after.goesOn then after
      else if after.status = 0 then run fuel body after
      else if otherwise.isEmpty then after.withStatus 0
      else run fuel otherwise after
    | .loop wanted condition body => (runLoop fuel wanted condition body 0 s.enterLoop).leaveLoop s
    | .forEach name words? body =>
      let (words, after) :=
        match words? with
        | none => (s.arguments, s)
        | some given => wordFields fuel given s
      if after.goesOn then
        (runTurns fuel name words body (after.enterLoop.withStatus 0)).leaveLoop s
      else after
    | .select subject branches =>
      let (text, after) := wordText fuel subject s
      if after.goesOn then runBranch fuel text.toList branches (after.withStatus 0) else after
    | .define name body =>
      { s with functions := s.functions.insert name body, status := 0 }

/-- The state after a loop with a condition; `status` is that of its body so far. -/
def runLoop : Nat → Bool → List Command → List Command → Nat → Shell → Shell
  | 0, _, _, _, _, s => s.exhausted
  | fuel + 1, wanted, condition, body, status, s =>
    let asked := test fuel condition s
    if !asked.goesOn then
      let (after, again) := asked.afterTurn
      if again then runLoop fuel wanted condition body status after else after
    else if (asked.status = 0) ≠ wanted then asked.withStatus status
    else
      let (after, again) := (run fuel body asked).afterTurn
      if again then runLoop fuel wanted condition body after.status after else after

/-- The state after a loop over words. -/
def runTurns : Nat → String → List String → List Command → Shell → Shell
  | 0, _, _, _, s => s.exhausted
  | _ + 1, _, [], _, s => s
  | fuel + 1, name, word :: rest, body, s =>
    let (after, again) := (run fuel body (s.assign name word)).afterTurn
    if again then runTurns fuel name rest body after else after

/-- The state after the first branch with a pattern that accepts a text. -/
def runBranch : Nat → List Char → List (List Word × List Command) → Shell → Shell
  | 0, _, _, s => s.exhausted
  | _ + 1, _, [], s => s
  | fuel + 1, text, ([], _) :: rest, s => runBranch fuel text rest s
  | fuel + 1, text, (w :: others, body) :: rest, s =>
    let (pieces, after) := wordAtoms fuel w s
    if !after.goesOn then after
    else if (Pattern.ofMarked (marked pieces)).accepts text then run fuel body after
    else runBranch fuel text ((others, body) :: rest) after

/-- The state after a simple command. -/
def runSimple : Nat → List (String × Word) → List Word → List Redirection → Shell → Shell
  | 0, _, _, _, s => s.exhausted
  | fuel + 1, bindings, words, redirections, s =>
    let (arguments, expanded) := wordFields fuel words { s with substituted? := none }
    if !expanded.goesOn then expanded
    else
      let (opened, inside) := redirect fuel redirections expanded
      let special := arguments.head?.any specialNames.contains
      if !opened then
        let after := inside.withStreamsOf s redirections
        if special then after.ends 2 else after.withStatus 2
      else
        let (earlier, bound) := bind fuel bindings inside
        if !bound.goesOn then bound
        else
          match arguments with
          | [] => (bound.withStreamsOf s redirections).withStatus (bound.substituted?.getD 0)
          | ["exec"] => bound.withStatus 0
          | name :: rest =>
            let visible := { bound with exported := bindings.map Prod.fst ++ bound.exported }
            let after := (runNamed fuel name rest visible).withStreamsOf s redirections
            let kept := { after with
              exported := if special then after.exported else s.exported }
            if special then kept
            else earlier.foldl (fun t entry => t.restore entry.1 entry.2) kept

/-- The state after a command with its arguments. -/
def runNamed : Nat → String → List String → Shell → Shell
  | 0, _, _, s => s.exhausted
  | fuel + 1, name, arguments, s =>
    match s.functions.get? name with
    | some body =>
      if specialNames.contains name then runOwn fuel name arguments s
      else
        let after := runCommand fuel body { s with arguments, outer := [], loops := 0 }
        let flow := if after.flow = .leaveFunction then .next else after.flow
        let back :=
          { after with arguments := s.arguments, outer := s.outer, loops := s.loops, flow }
        after.outer.foldl (fun t entry => t.restore entry.1 entry.2) back
    | none => runOwn fuel name arguments s

/-- The state after a command that is no function. -/
def runOwn : Nat → String → List String → Shell → Shell
  | 0, _, _, s => s.exhausted
  | fuel + 1, name, arguments, s =>
    match name with
    | "exit" => s.finishWith .ended arguments
    | "return" => s.finishWith .leaveFunction arguments
    | "break" => s.finishTurn .leaveLoops arguments
    | "continue" => s.finishTurn .nextTurn arguments
    | "shift" => s.shift arguments
    | "set" => s.applySet arguments
    | "export" => s.share (arguments.filter fun word => word ≠ "-p")
    | "readonly" => s.fix (arguments.filter fun word => word ≠ "-p")
    | "getopts" => s.nextOption arguments
    | "local" => s.makeLocal arguments
    | "unset" => s.unset arguments
    | "read" => s.readInto arguments
    | "trap" => s.setHandlers arguments
    | "pwd" => s.write [47, 10] 0
    | "cd" =>
      let path := arguments.getLast?.getD "."
      s.withStatus (if (s.store.find path).toOption = some .directory then 0 else 2)
    | "eval" => runSource fuel (" ".intercalate arguments) s
    | "." =>
      match arguments with
      | [] => s.withStatus 0
      | path :: _ =>
        match s.store.read path with
        | .ok bytes =>
          if path.toList.contains '/' then
            let after := runSource fuel (textOf bytes) s
            if after.flow = .leaveFunction then { after with flow := .next } else after
          else s.ends 2
        | .error _ => s.ends 2
    | "exec" =>
      let after := runProgram fuel arguments s
      if after.goesOn then { after with flow := .ended, handlers := ∅ } else after
    | "command" | "type" =>
      match arguments with
      | "-v" :: word :: _ | "-V" :: word :: _ =>
        if s.knows word then s.write (Text.encode (word ++ "\n")) 0 else s.withStatus 127
      | [] => s.withStatus 0
      | word :: rest =>
        if name = "type" then
          if s.knows word then s.write (Text.encode (word ++ "\n")) 0 else s.withStatus 127
        else if ownNames.contains word then runOwn fuel word rest s
        else runProgram fuel (word :: rest) s
    | "kill" => runSignals fuel arguments s
    | _ =>
      if silentNames.contains name then s.withStatus 0
      else if ownNames.contains name then s.runTool name arguments
      else runProgram fuel (name :: arguments) s

/-- The state after sending a signal. -/
def runSignals : Nat → List String → Shell → Shell
  | 0, _, s => s.exhausted
  | fuel + 1, words, s =>
    match readSignal words with
    | none => s.withStatus (if words.head? = some "-l" then 0 else 2)
    | some (_, []) => s.withStatus 2
    | some (signal, process :: _) =>
      if process ≠ processNumber then s.withStatus 1
      else
        let action? := if signal = 9 then none else s.handlers.get? (handlerName (Nat.repr signal))
        match action? with
        | some action =>
          let after := runSource fuel action (s.withStatus 0)
          if after.goesOn then after.withStatus 0 else after
        | none =>
          if Signal.isHarmless signal then s.withStatus 0
          else { s with flow := .killed signal }

/-- The state after a program with its arguments. -/
def runProgram : Nat → List String → Shell → Shell
  | 0, _, s => s.exhausted
  | _ + 1, [], s => s.withStatus 0
  | fuel + 1, program :: arguments, s =>
    match launch s.store program arguments with
    | .tool name given => s.runTool name given
    | .shell given => runShell fuel given s
    | .ends status => s.withStatus status
    | .refused .unknownForm => runShell fuel (program :: arguments) s
    | .refused .missing | .refused .notDirectory => s.withStatus 127
    | .refused _ => s.withStatus 126

/-- The state after another script. -/
def runShell : Nat → List String → Shell → Shell
  | 0, _, s => s.exhausted
  | fuel + 1, given, s =>
    let inner := runInvocation fuel given s
    let after := s.confinedTo inner
    match inner.flow with
    | .killed signal => { after with flow := s.flow, status := 128 + signal }
    | _ => after

/-- The state in which another script ends. -/
def runInvocation : Nat → List String → Shell → Shell
  | 0, _, s => s.exhausted
  | fuel + 1, given, s =>
    match readInvocation? given with
    | none => s.withStatus 2
    | some invocation =>
      let source? :=
        match invocation.commands?, invocation.path? with
        | some commands, _ => some commands
        | none, some path => ((s.store.read path).toOption).map textOf
        | none, none => some (textOf s.unreadBytes)
      match source? with
      | none => s.withStatus 2
      | some source =>
        let visible := s.bindings.entries.filter fun entry => s.exported.contains entry.1
        let begun := Shell.start s.store invocation.name invocation.arguments s.input s.sinks
        finish fuel (runSource fuel source { begun with
          bindings := visible.foldl (fun t entry => t.insert entry.1 entry.2) begun.bindings
          exported := visible.map Prod.fst
          modes := invocation.modes
          collected := s.collected })

/-- The state after the commands of a text, line by line.  A line that makes no sense ends the
script. -/
def runSource : Nat → String → Shell → Shell
  | 0, _, s => s.exhausted
  | fuel + 1, source, s =>
    let parse := parse source
    let after := run fuel (parse.lines.map .group) (s.withStatus 0)
    if after.goesOn && !parse.complete then after.ends 2 else after

/-- The state after what is run at the end of a script. -/
def finish : Nat → Shell → Shell
  | 0, s => s.exhausted
  | fuel + 1, s =>
    match s.flow, s.handlers.get? "EXIT" with
    | .killed _, _ | _, none => s
    | _, some action =>
      let status := s.status
      let after := runSource fuel action { s with flow := .next, handlers := ∅ }
      if after.goesOn then after.withStatus status else after
end

end Shell

/-- The number of steps that a script may take. -/
def stepLimit : Nat := 1000000

/-- The host on which the scripts among the files are programs, next to those of every system. -/
def host : Host := fun program arguments store =>
  let begun := Shell.start store "sh" [] (.text []) Shell.unread
  match launch store program arguments with
  | .refused reason => (.notStarted reason, store)
  | .ends status => (.exited status, store)
  | .tool name given =>
    let after := begun.runTool name given
    (.exited after.status, after.store)
  | .shell given =>
    let after := begun.runInvocation stepLimit given
    match after.flow with
    | .killed signal => (.signalled signal, after.store)
    | _ => (.exited after.status, after.store)

end RankedRetrieval.Script
