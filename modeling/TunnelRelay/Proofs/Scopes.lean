import TunnelRelay.Proofs.PortSearch

/-! What the endpoints that a search asks for have of the preferred one. The preferred
endpoint itself is asked for as it is, if it has a port. All others are made of its address
and another port, so that a scope is lost. -/
namespace TunnelRelay.PortSearch

variable {σ : Type} {s : ListenSettings} {w : Surroundings σ} {a : Address} {e x : Endpoint}

def Bare (a : Address) (x : Endpoint) : Prop := x = .ofAddress a x.port

theorem bareMade (a : Address) (port : UInt16) : Bare a (.ofAddress a port) := by
  rw [Bare, Endpoint.ofAddressPort]

theorem bareScope (bare : Bare a x) : x.scope = 0 := by
  rw [bare, Endpoint.ofAddressScope]

theorem tryFromBare (left drawing : Nat) (e : Endpoint) (asked : List Endpoint) :
    (tryFrom s a w left drawing e asked).asked = asked ∨
      ∃ rest, (tryFrom s a w left drawing e asked).asked = asked ++ e :: rest ∧ ∀ x ∈ rest, Bare a x := by
  induction left generalizing drawing e asked with
  | zero =>
    unfold tryFrom
    split
    · exact .inl rfl
    · dsimp only
      split <;> exact .inr ⟨[], rfl, nofun⟩
  | succ left ih =>
    unfold tryFrom
    split
    · exact .inl rfl
    dsimp only
    split
    · exact .inr ⟨[], rfl, nofun⟩
    split
    · split
      · rename_i port chosen
        right
        rcases ih (drawing + 1) (.ofAddress a port) (asked ++ [e]) with here | ⟨rest, more, bare⟩
        · exact ⟨[], here, nofun⟩
        · refine ⟨.ofAddress a port :: rest, by rw [more, List.append_assoc]; rfl, fun x mem => ?_⟩
          rcases List.mem_cons.mp mem with rfl | later
          · exact bareMade a port
          · exact bare x later
      · exact .inr ⟨[], rfl, nofun⟩
    · exact .inr ⟨[], rfl, nofun⟩

theorem runBegins (s : ListenSettings) (e : Endpoint) (w : Surroundings σ) :
    (run s (some e) w).asked = [] ∨ ∃ first rest, (run s (some e) w).asked = first :: rest ∧
      (if e.port = 0 then Bare e.address first else first = e) ∧ ∀ x ∈ rest, Bare e.address x := by
  unfold run
  split
  · exact .inl rfl
  dsimp only
  split
  · rename_i x port
    obtain ⟨chosen, port⟩ := Option.filter_eq_some_iff.mp port
    cases chosen
    have nonzero : e.port ≠ 0 := by simpa using port
    rcases tryFromBare _ _ e [] with nothing | ⟨rest, more, bare⟩
    · exact .inl nothing
    · exact .inr ⟨e, rest, more, by rw [if_neg nonzero], bare⟩
  · rename_i portless
    have zero : e.port = 0 := by simpa [withPort] using portless
    split
    · rename_i port chosen
      rcases tryFromBare _ _ (.ofAddress e.address port) [] with nothing | ⟨rest, more, bare⟩
      · exact .inl nothing
      · exact .inr ⟨_, rest, more, by rw [if_pos zero]; exact bareMade e.address port, bare⟩
    · exact .inl rfl

theorem bareKeeps (bare : Bare e.address x) : x = e.withPort x.port ↔ e.scope = 0 := by
  constructor
  · intro same
    rw [← Endpoint.withPortScope e x.port, ← same, bareScope bare]
  · intro unscoped
    rw [← Endpoint.ofAddressUnscoped unscoped]
    exact bare

theorem runKeeps (s : ListenSettings) (e : Endpoint) (w : Surroundings σ) :
    (∀ x ∈ (run s (some e) w).asked, x = e.withPort x.port) ↔
      e.scope = 0 ∨ (run s (some e) w).asked = [] ∨ e.port ≠ 0 ∧ (run s (some e) w).asked = [e] := by
  rcases runBegins s e w with nothing | ⟨first, rest, begun, here, bare⟩
  · simp [nothing]
  rw [begun, List.forall_mem_cons]
  have later : (∀ x ∈ rest, x = e.withPort x.port) ↔ e.scope = 0 ∨ rest = [] := by
    rcases List.eq_nil_or_concat rest with rfl | ⟨_, x, rfl⟩
    · simp
    · rw [or_iff_left (by simp)]
      refine ⟨fun kept => (bareKeeps (bare x (by simp))).mp (kept x (by simp)), fun unscoped y mem => ?_⟩
      exact (bareKeeps (bare y mem)).mpr unscoped
  by_cases port : e.port = 0
  · rw [if_pos port] at here
    rw [bareKeeps here, later]
    refine ⟨fun kept => .inl kept.1, fun kept => ?_⟩
    have unscoped : e.scope = 0 := by simpa [port] using kept
    exact ⟨unscoped, .inl unscoped⟩
  · rw [if_neg port] at here
    subst here
    rw [Endpoint.withPortSelf, later]
    simp [port]

/- Whatever range, binder, draws and canceller a search with a preferred endpoint has: all that it asks
for has the address of that endpoint; the first is the endpoint itself if it has a port; and all others
have no scope, so that they differ from it in more than the port if it has one. -/
theorem retriesLoseScope (s : ListenSettings) (e : Endpoint) (w : Surroundings σ) :
    (∀ x ∈ (run s (some e) w).asked, x.address = e.address) ∧
    (∀ (i : Nat) x, (run s (some e) w).asked[i]? = some x →
      x = if i = 0 ∧ e.port ≠ 0 then e else .ofAddress e.address x.port) ∧
    ((∀ x ∈ (run s (some e) w).asked, x = e.withPort x.port) ↔
      e.scope = 0 ∨ (run s (some e) w).asked = [] ∨ e.port ≠ 0 ∧ (run s (some e) w).asked = [e]) := by
  refine ⟨fun x mem => (runAddress x mem).2, fun i x found => ?_, runKeeps s e w⟩
  rcases runBegins s e w with nothing | ⟨first, rest, begun, here, bare⟩
  · simp [nothing] at found
  rw [begun] at found
  cases i with
  | zero =>
    cases found
    split at here
    · rename_i zero
      rw [if_neg (by simp [zero])]
      exact here
    · rename_i port
      rw [if_pos ⟨rfl, port⟩]
      exact here
  | succ i =>
    rw [if_neg (by simp)]
    exact bare x (List.mem_of_getElem? found)

def linkLocal (port : UInt16) (scope : UInt32) : Endpoint := .v6 #v[0xfe80, 0, 0, 0, 0, 0, 0, 1] port scope

def linkSettings : ListenSettings := { ports := ⟨300, 301⟩, loopbackOnly := false }

def firstTaken : Surroundings Endpoint where
  bind asked e := if asked.isEmpty then .error (.ofBind e (.described .addrInUse "")) else .ok e
  draw drawing _ := drawing
  cancelled _ := false

/- After a conflict over the port, and without a port to begin with, the interface is forgotten. -/
theorem retriesForgetInterface :
    (run linkSettings (some (linkLocal 6 3)) firstTaken).asked = [linkLocal 6 3, linkLocal 300 0] ∧
      (run linkSettings (some (linkLocal 0 3)) firstTaken).asked = [linkLocal 300 0, linkLocal 301 0] ∧
      ¬ (∀ x ∈ (run linkSettings (some (linkLocal 6 3)) firstTaken).asked, x.scope = 3) ∧
      ¬ ∀ x ∈ (run linkSettings (some (linkLocal 0 3)) firstTaken).asked, x.scope = 3 := by
  decide

theorem retriesLoseScopeLinkLocal :
    (run linkSettings (some (linkLocal 6 3)) firstTaken).asked[1]? = some (linkLocal 300 0) ∧
      linkLocal 300 0 = .ofAddress (linkLocal 6 3).address 300 ∧
      ¬ ∀ x ∈ (run linkSettings (some (linkLocal 6 3)) firstTaken).asked, x = (linkLocal 6 3).withPort x.port := by
  obtain ⟨-, made, kept⟩ := retriesLoseScope linkSettings (linkLocal 6 3) firstTaken
  have second : (run linkSettings (some (linkLocal 6 3)) firstTaken).asked[1]? = some (linkLocal 300 0) := by decide
  exact ⟨second, made 1 _ second, fun all => absurd (kept.mp all) (by decide)⟩

end TunnelRelay.PortSearch
