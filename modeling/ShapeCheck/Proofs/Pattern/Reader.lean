import ShapeCheck.Proofs.Pattern.Token

namespace ShapeCheck.Pattern.Reader

def within (s : Reader) (groups : List OpenGroup) : Reader :=
  { s with outer := s.outer ++ groups }

theorem within_outer (s : Reader) (groups : List OpenGroup) :
    (s.within groups).outer = s.outer ++ groups :=
  rfl

@[simp]
theorem within_nil (s : Reader) : s.within [] = s := by
  simp [within]

variable {s s' t : Reader} {token : Token} {cs r : List Char}

theorem next?_within (h : s.next? token = some s') (groups : List OpenGroup) :
    (s.within groups).next? token = some (s'.within groups) := by
  cases token with
  | head head =>
      cases head with
      | settings mode =>
          cases h
          rfl
      | group mode name =>
          cases name with
          | none =>
              cases h
              rfl
          | some n =>
              simp only [next?] at h
              split at h
              · cases h
              next fresh =>
                cases h
                exact if_neg fresh
  | close =>
      simp only [next?] at h
      split at h
      · cases h
      next outer others eq =>
        cases h
        simp only [next?, within, eq, List.cons_append]
  | branch =>
      cases h
      rfl
  | repetition counts =>
      obtain ⟨inner, repeated, same⟩ := Option.map_eq_some_iff.1 h
      cases same
      simp only [next?, within, repeated, Option.map_some]
  | tree t =>
      cases h
      rfl

theorem read_of_skip_eq_nil (h : skip s.mode.verbose cs = []) : s.read cs = some s := by
  rw [read, if_pos (by rw [h]; rfl)]

@[simp]
theorem read_nil (s : Reader) : s.read [] = some s :=
  read_of_skip_eq_nil (skip_nil _)

theorem read_of_skip_ne_nil (h : skip s.mode.verbose cs ≠ []) :
    s.read cs = (readToken s.mode (skip s.mode.verbose cs)).bind fun x =>
      (s.next? x.1).bind fun s' => s'.read x.2 := by
  rw [read, if_neg (by simpa using h)]
  split
  next word =>
    rw [word]
    rfl
  next word =>
    rw [word, Option.bind_some]
    split
    next stuck =>
      rw [stuck]
      rfl
    next step => rw [step, Option.bind_some]

theorem read_of_readToken (word : readToken s.mode (skip s.mode.verbose cs) = some (token, r)) :
    s.read cs = (s.next? token).bind fun s' => s'.read r := by
  rw [read_of_skip_ne_nil, word, Option.bind_some]
  intro empty
  have := readToken_lt word
  rw [empty] at this
  exact Nat.not_lt_zero _ this

theorem follows_readToken (s : Reader) (h : skip s.mode.verbose cs ≠ []) :
    Follows (readToken s.mode (skip s.mode.verbose cs))
      (readToken s.mode (skip s.mode.verbose (cs ++ [')']))) := by
  rcases skip_append s.mode.verbose cs with same | ⟨empty, _⟩
  · rw [same]
    exact (local_readToken s.mode).follows _
  · exact absurd empty h

/-- A text that was read to its end is read to its end within groups, and then the `)` after it
closes the innermost group or is lost in a comment. -/
theorem read_append_close (h : s.read cs = some t) :
    (∀ groups, (s.within groups).read (cs ++ [')']) = (t.within groups).next? .close) ∨
      ∀ groups, (s.within groups).read (cs ++ [')']) = some (t.within groups) := by
  induction size : cs.length using Nat.strongRecOn generalizing s cs with
  | _ n ih =>
      by_cases ended : skip s.mode.verbose cs = []
      · obtain rfl : s = t := by simpa [read_of_skip_eq_nil ended] using h
        rcases skip_append s.mode.verbose cs with closes | ⟨_, swallowed⟩
        · refine .inl fun groups => ?_
          have word : readToken s.mode (skip s.mode.verbose (cs ++ [')'])) = some (.close, []) := by
            rw [closes, ended]
            rfl
          rw [read_of_readToken (s := s.within groups) word]
          cases (s.within groups).next? .close <;> simp
        · exact .inr fun groups => read_of_skip_eq_nil swallowed
      · rw [read_of_skip_ne_nil ended] at h
        obtain ⟨⟨token, r⟩, word, rest⟩ := Option.bind_eq_some_iff.1 h
        obtain ⟨s', step, later⟩ := Option.bind_eq_some_iff.1 rest
        have follows := follows_readToken s ended
        rw [word] at follows
        have framed (groups : List OpenGroup) (r' : List Char)
            (word' : readToken s.mode (skip s.mode.verbose (cs ++ [')'])) = some (token, r')) :
            (s.within groups).read (cs ++ [')']) = (s'.within groups).read r' := by
          rw [read_of_readToken (s := s.within groups) word', next?_within step, Option.bind_some]
        cases eq : readToken s.mode (skip s.mode.verbose (cs ++ [')'])) with
        | none =>
            rw [eq] at follows
            cases follows
        | some x =>
            rw [eq] at follows
            cases follows with
            | keeps =>
                have shorter := Nat.lt_of_lt_of_le (readToken_lt word) (length_skip_le _ _)
                rcases ih r.length (size ▸ shorter) later rfl with closes | swallowed
                · exact .inl fun groups => (framed groups _ eq).trans (closes groups)
                · exact .inr fun groups => (framed groups _ eq).trans (swallowed groups)
            | swallows =>
                -- A word that swallows the `)` swallows all that is left of the text.
                obtain rfl : s' = t := by simpa using later
                exact .inr fun groups => by rw [framed groups _ eq, read_nil]

end ShapeCheck.Pattern.Reader
