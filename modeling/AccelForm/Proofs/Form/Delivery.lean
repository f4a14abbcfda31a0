import AccelForm.Form.Remote
import AccelForm.Proofs.Rest.Grant
import Mathlib.Data.List.Forall2
/-
  Delivering a plan

  A save sends the updates of the plan one after the other, each with its own
  call (`Delivers`). What reaches the server for an update are logins and
  posts of that update, and the update succeeds exactly if the server granted
  one of the posts. The report has the data models with problems first and
  then an item for each update, in the same order, which is marked as saved
  exactly if the update succeeded.
-/

namespace AccelForm

open Rest Client

/-- A post that a plan asks for. -/
inductive Update where
  | whitelist (c : WhitelistChange)
  | settings (c : SettingsChange)
  deriving DecidableEq, Repr

namespace Update

def address (base : String) (t : Config.Target) : Update → String
  | .whitelist c => macroAddress base t.owner t.app c.macroName
  | .settings c => dataModelAddress base t.owner t.app c.model

def form : Update → List (String × String)
  | .whitelist c => [("definition", c.definition)]
  | .settings c => c.params

/-- Whether a request is a post of the update. -/
def IsPosted (base : String) (t : Config.Target) (u : Update) (r : Request) : Prop :=
  IsPost (u.address base t) u.form r

def send {m : Type → Type} (b : Backend m) : Update → m UpdateResult
  | .whitelist c => b.updateMacro c.macroName c.definition
  | .settings c => b.updateDataModel c.model c.params

/-- The item of a report on the update. -/
def item (result : UpdateResult) : Update → SaveItem
  | .whitelist c => ⟨c.model, .whitelist, .ofResult result⟩
  | .settings c => ⟨c.model, .settings, .ofResult result⟩

/-- An update succeeds exactly if one of its posts was granted. -/
theorem wins_send (link : Link) (t : Config.Target) (u : Update) :
    Wins link.server (u.IsPosted link.baseUrl t) Succeeds (u.send (.remote link t)) := by
  cases u with
  | whitelist c => exact wins_posting link _ _ _
  | settings c => exact wins_posting link _ _ _

end Update

namespace Plan

/-- The updates of a plan in the order in which they are sent. -/
def updates (p : Plan) : List Update := p.whitelists.map .whitelist ++ p.settings.map .settings

/-- The items of the report on a plan to whose updates the server gave the results. -/
def items (p : Plan) (results : List UpdateResult) : List SaveItem :=
  p.invalid.map (fun c => ⟨c.model, .settings, .invalid c.problems⟩) ++
    List.zipWith (fun u r => Update.item r u) p.updates results

/-- A report has its items in the order of the updates. -/
theorem items_ofResults (p : Plan) {ws ss : List UpdateResult}
    (h : ws.length = p.whitelists.length) :
    (SaveReport.ofResults p ws ss).items = p.items (ws ++ ss) := by
  have hsplit : List.zipWith (fun u r => Update.item r u) p.updates (ws ++ ss) =
      (p.whitelists.zip ws).map (fun e => (Update.whitelist e.1).item e.2) ++
        (p.settings.zip ss).map (fun e => (Update.settings e.1).item e.2) := by
    rw [updates, List.zipWith_append (by rw [List.length_map, h]), List.zipWith_map_left,
      List.zipWith_map_left, List.zip, List.zip, List.map_zipWith, List.map_zipWith]
  rw [items, hsplit, ← List.append_assoc]
  rfl

end Plan

/-- Updates that are sent one after the other: the results of the calls, and the requests that
reached the server for each update. -/
inductive Delivers (link : Link) (t : Config.Target) :
    Wire → List Update → List UpdateResult → Wire → Prop where
  | nil (w : Wire) : Delivers link t w [] [] w
  | cons {w w₁ w₂ : Wire} {u : Update} {us : List Update} {result : UpdateResult}
      {results : List UpdateResult} {l : List Request}
      (call : (u.send (.remote link t)).run w = (result, w₁))
      (sent : w₁.sent = w.sent ++ l)
      (only : ∀ r ∈ l, r.IsLogin ∨ u.IsPosted link.baseUrl t r)
      (succeeds : Succeeds result ↔ Granted link.server (u.IsPosted link.baseUrl t) w.sent l)
      (rest : Delivers link t w₁ us results w₂) :
      Delivers link t w (u :: us) (result :: results) w₂

namespace Delivers
variable {link : Link} {t : Config.Target} {w w₁ w₂ : Wire} {us us' : List Update}
  {results results' : List UpdateResult}

theorem length_eq (h : Delivers link t w us results w₁) : results.length = us.length := by
  induction h with
  | nil => rfl
  | cons _ _ _ _ _ ih => rw [List.length_cons, List.length_cons, ih]

theorem append (h : Delivers link t w us results w₁) (h' : Delivers link t w₁ us' results' w₂) :
    Delivers link t w (us ++ us') (results ++ results') w₂ := by
  induction h with
  | nil => exact h'
  | cons call sent only succeeds _ ih => exact .cons call sent only succeeds (ih h')

/-- Nothing is taken back from what was sent. -/
theorem exists_append (h : Delivers link t w us results w₁) : ∃ l, w₁.sent = w.sent ++ l := by
  induction h with
  | nil w => exact ⟨[], (List.append_nil _).symm⟩
  | cons _ sent _ _ _ ih =>
    obtain ⟨l', hl'⟩ := ih
    exact ⟨_, by rw [hl', sent, List.append_assoc]⟩

/-- Sending a list of updates delivers them. -/
theorem mapM {α : Type} (update : α → Update) (l : List α) (w : Wire) :
    Delivers link t w (l.map update)
      ((l.mapM fun a => (update a).send (.remote link t)).run w).1
      ((l.mapM fun a => (update a).send (.remote link t)).run w).2 := by
  induction l generalizing w with
  | nil => exact .nil w
  | cons a rest ih =>
    obtain ⟨l, hl, honly, hsucceeds⟩ := Update.wins_send link t (update a) w
    rw [List.mapM_cons]
    exact .cons rfl hl honly hsucceeds (ih _)

end Delivers

/-- A save delivers the updates of the plan and reports on them. -/
theorem Form.delivers_save (f : Form) (link : Link) (t : Config.Target) (w : Wire) :
    ∃ results, Delivers link t w f.plan.updates results ((f.save (.remote link t)).run w).2 ∧
      ((f.save (.remote link t)).run w).1.1.items = f.plan.items results := by
  let ws := (f.plan.whitelists.mapM fun c => (Update.whitelist c).send (.remote link t)).run w
  let ss := (f.plan.settings.mapM fun c => (Update.settings c).send (.remote link t)).run ws.2
  have hws : Delivers link t w (f.plan.whitelists.map .whitelist) ws.1 ws.2 :=
    .mapM Update.whitelist f.plan.whitelists w
  have hss : Delivers link t ws.2 (f.plan.settings.map .settings) ss.1 ss.2 :=
    .mapM Update.settings f.plan.settings ws.2
  have hlength : ws.1.length = f.plan.whitelists.length := by
    rw [hws.length_eq, List.length_map]
  exact ⟨ws.1 ++ ss.1, hws.append hss, f.plan.items_ofResults hlength⟩

end AccelForm
