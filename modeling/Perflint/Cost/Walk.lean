import Perflint.Cost.Bound

namespace Perflint

structure Cost where
  degree : Nat := 0
  logs : Nat := 0
  loops : List Site := []
  deriving Inhabited

namespace Cost

def below (a b : Cost) : Bool :=
  a.degree < b.degree || (a.degree == b.degree && a.logs < b.logs)

-- The dearest; of several the first, and of free ones none.
def dearest (costs : List Cost) : Cost :=
  costs.foldl (fun best cost => if best.below cost then cost else best) {}

def nest (site : Site) (factor : Nat × Nat) (body : Cost) : Cost :=
  if factor == (0, 0) then body
  else { degree := body.degree + factor.1, logs := body.logs + factor.2, loops := site :: body.loops }

mutual

-- Nesting adds degrees, sequence takes the dearest. What is evaluated once in a loop is not in it, and
-- functions defined here do not run here.
def ofNode (outline : Outline) (scope : Scope) (above : List Node) (enclosing : List Site) : Node → Cost
  | .mk head children =>
    let node := Node.mk head children
    if node.isFunction then {}
    else
      let site : Site := { node, above }
      let parts := ofChildren outline scope site enclosing children
      let once := (parts.filter (!·.1)).map Prod.snd
      let body := dearest ((parts.filter (·.1)).map Prod.snd)
      dearest (once ++ [nest site (Bound.ofSite outline scope site enclosing).factor body])

def ofChildren (outline : Outline) (scope : Scope) (parent : Site) (enclosing : List Site) :
    List Node → List (Bool × Cost)
  | [] => []
  | child :: rest =>
    let inside := parent.node.runsPerIteration child
    (inside, ofNode outline scope (parent.node :: parent.above)
      (if inside then parent :: enclosing else enclosing) child) :: ofChildren outline scope parent enclosing rest

end

def ofScope (outline : Outline) (scope : Scope) : Cost :=
  let root := scope.root
  dearest (root.node.children.map (ofNode outline scope (root.node :: root.above) []))

end Cost

structure Visit where
  site : Site
  enclosing : List Site

namespace Visit

mutual

-- The nodes of a scope in the order in which they are done with: what is evaluated once, what is repeated,
-- then the node itself.
def below (above : List Node) (enclosing : List Site) : Node → List Visit
  | .mk head children =>
    let node := Node.mk head children
    if node.isFunction then []
    else
      let site : Site := { node, above }
      let parts := belowAll site enclosing children
      ((parts.filter (!·.1)).flatMap Prod.snd) ++ ((parts.filter (·.1)).flatMap Prod.snd) ++ [{ site, enclosing }]

def belowAll (parent : Site) (enclosing : List Site) : List Node → List (Bool × List Visit)
  | [] => []
  | child :: rest =>
    let inside := parent.node.runsPerIteration child
    (inside, below (parent.node :: parent.above) (if inside then parent :: enclosing else enclosing) child) ::
      belowAll parent enclosing rest

end

def ofScope (scope : Scope) : List Visit :=
  let root := scope.root
  root.node.children.flatMap (below (root.node :: root.above) [])

end Visit

def Scope.boundedBy (scope : Scope) (outline : Outline) (bound : Bound) : List Site :=
  ((Visit.ofScope scope).filter fun visit =>
    Bound.ofSite outline scope visit.site visit.enclosing == bound).map Visit.site

end Perflint
