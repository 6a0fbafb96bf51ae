import DiagramLinks.Text.Runs

namespace DiagramLinks.Text

/-- Runs of one combining class, which is the number of the run; zero where there is none. -/
def combiningRuns : Runs := Runs.decode (String.join [
  "0ClcC6e.lC6g.1C64.4C6g.1C60.1C64.5C5m.2C64.4C5m.2C64.bC1.5C64.4C6e.8C6o.1C6e.1C64.3C6e.3C64.2C1C",
  "6e.3C64.4C6e.1C6g.1C64.2C6e.1C6h.1C6i.2C6h.1C6i.2C6h.1C6e.dC7nC6e.5C7dC64.1C6e.4C64.1C6e.3C66.1C",
  "64.1C6e.6C64.6C6e.2C64.1C6e.2C66.1C6c.1C6e.1Ca.1Cb.1Cc.1Cd.1Ce.1Cf.1Cg.1Ch.1Ci.1Cj.2Ck.1Cl.1Cm.1",
  "C1Cn.1C1Co.1Cp.1C1C6e.1C64.1C1Ci.1C20C6e.8Cu.1Cv.1Cw.1C1cCr.1Cs.1Ct.1Cu.1Cv.1Cw.1Cx.1Cy.1C6e.2C6",
  "4.2C6e.5C64.1C6e.2C64.1CgCz.1C2tC6e.7C2C6e.4C64.1C6e.1C2C6e.2C1C64.1C6e.2C64.1CzC10.1CuC6e.1C64.",
  "1C6e.2C64.1C6e.2C64.3C6e.1C64.2C6e.1C64.1C6e.3C64.1C6e.1C64.1C6e.1C64.1C6e.1C64.1C6e.2C4gC6e.7C6",
  "4.1C6e.1C9C64.1CoC6e.4C1C6e.9C1C6e.3C1C6e.5C17C64.3C1nC6e.2C64.3C6e.4C16C6e.5C64.5C6e.eC1C64.1C6",
  "e.2C64.1C6e.2C64.1C6e.3C64.3Cr.1Cs.1Ct.1C6e.3C64.1C6e.2C64.2C6e.5C1oC7.1CgC9.1C3C6e.1C64.1C6e.2C",
  "2vC7.1CgC9.1C1cC6e.1C1pC7.1CgC9.1C32C7.1CgC9.1C32C7.1CgC9.1C3jC9.1C32C7.1CgC9.1C7C2c.1C2j.1C2tC7",
  ".1CgC9.1C31C9.2CgC9.1C3gC9.1C31C2v.2C9.1CdC2z.4C30C3a.2C9.1CdC3e.4C24C64.2CrC64.1C1C64.1C1C60.1C",
  "1jC3l.1C3m.1C1C3o.1C5C3m.4C2C3m.1C1C6e.2C9.1C1C6e.2C1qC64.1C34C7.1C1C9.2C2aC64.1CjzC6e.3CqcC9.2C",
  "uC9.1C4dC9.1CaC6e.1C5nC6c.1C3zC66.1C6e.1C64.1C63C6e.1C64.1C1zC9.1CkC6e.8C2C64.1C1cC6e.5C64.6C6e.",
  "2C64.1C1C64.2C6e.2C64.2C6e.5C64.1C6e.iC64.1C2C6e.6C64.1C6e.4C6i.1C20C7.1CfC9.1C12C6e.1C64.1C6e.7",
  "C1iC9.2C1mC7.1CbC9.2C1vC7.1C48C6e.3C1C1.1C64.5C6e.2C64.4C6e.1C1C1.7C4C64.1C6C6e.1C3C6e.2C5iC6e.2",
  "C64.1C6e.7C64.1C6e.2C6i.1C5y.1C64.1C5m.1C6e.11C6g.1C6c.2C64.1C62.1C6e.1C6h.1C64.1C6e.1C64.1Ck0C6",
  "e.2C1.2C6e.4C1.3C6e.2C4C6e.1C3C1.2C6e.1C64.1C6e.1C1.2C64.4C6e.1C2daC6e.3C3xC9.1C2oC6e.wCfeC62.1C",
  "6c.1C6g.1C66.1C68.2C2xC8.2Cn9wC6e.1C4C6e.aCwC6e.2C28C6e.2C7oC9.1C11C9.1C47C9.1CrC6e.iC1lC64.3C11",
  "C9.1C2nC7.1CcC9.1C6nC6e.1C1C6e.2C64.1C2C6e.2C5C6e.2C1C6e.1C1gC9.1C6uC9.1Cfn4Cq.1CldC6e.7C64.7C6e",
  ".2Cr1C64.1C6aC64.1C45C6e.5C1aqC64.1C1C6e.1C14C6e.1C1.1C64.1C4C9.1C4lC6e.1C64.1CfxC6e.4C1tC6e.5C8",
  "tC6e.2C25C64.2C1C64.3C1yC64.2C6e.3C64.1C6e.1C64.4C1dC6e.1C64.1C6e.1C64.1C5cC9.1C15C9.1CeC9.1C1lC",
  "9.1C7.1C1xC6e.3C1cC9.2C1qC7.1C24C9.1C9C7.1C2yC9.1C7.1C4yC7.1C9.1C28C7.2CgC9.1CoC6e.7C3C6e.5C2hC9",
  ".3C35C9.1C3C7.1CnC6e.1C2rC9.1C7.1C6zC9.1C7.1C3iC9.1C3aC9.1C7.1C37C9.1C7hC9.1C7.1C76C9.2C4C7.1C4c",
  "C9.1C2bC9.1CiC9.1C29C9.1CbpC9.1C76C7.1C1C9.2C29C9.1CbtC9.2Cd0sC9.1C1xcC1.5C1nC6e.7CxlC6.2Cf58C1.",
  "1C43qC60.2C1.3C3C6a.1C60.5C8C64.8C2C6e.5C64.2CuC6e.4C44C6e.3C2pnC6e.7C1C6e.hC2C6e.7C1C6e.2C1C6e.",
  "5C2sC6e.1C4gC6e.7CafC6e.1C1pC6e.4Ce4C6g.2C64.1C6e.1C72C6e.1C64.1C6rC6e.1C2C6e.1C7C6e.2C5C6e.1Cd6",
  "C64.7C31C6e.6C7.1C"])

def combiningClass (c : Char) : Nat :=
  (combiningRuns.find c).numbers.headD 0

/-- Puts a character in front of marks in order: it moves behind those of lower classes. -/
def insertMark (c : Char) : List Char → List Char
  | [] => [c]
  | d :: rest =>
    if combiningClass d ≠ 0 ∧ combiningClass d < combiningClass c then d :: insertMark c rest
    else c :: d :: rest

/-- Orders neighbouring marks by class; those of one class stay as they are. -/
def orderMarks (s : List Char) : List Char :=
  s.foldr insertMark []

end DiagramLinks.Text
