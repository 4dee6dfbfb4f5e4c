import ComputeBench.Gram.Exact
import ComputeBench.Image.Conformance
import ComputeBench.Image.Qoi.Encoding
import ComputeBench.Proofs.Gram.Columns
import ComputeBench.Proofs.Gram.Narrowing
import ComputeBench.Proofs.Gram.Refusal
import ComputeBench.Proofs.Gram.Session
import ComputeBench.Proofs.Gram.Symmetry
import ComputeBench.Proofs.Image.Deflate.Stored
import ComputeBench.Proofs.Image.Png.Filters
import ComputeBench.Proofs.Image.Png.Writer
import ComputeBench.Proofs.Image.Qoi.Encoder
import ComputeBench.Proofs.Image.Recode
import ComputeBench.Proofs.Message.MatrixOutcome
import ComputeBench.Proofs.Message.ResponseFormat
import ComputeBench.Proofs.Message.WalkOutcome
import ComputeBench.Proofs.Records.View
import ComputeBench.Proofs.Service.Calls
import ComputeBench.Proofs.Service.Session
import ComputeBench.Proofs.Walk.Aggregates
import ComputeBench.Proofs.Walk.Drive
import ComputeBench.Proofs.Walk.Fold
import ComputeBench.Proofs.Walk.Mirror
import ComputeBench.Proofs.Walk.Period
import ComputeBench.Proofs.Walk.Tiling
import ComputeBench.Proofs.Walk.Visited
import ComputeBench.Proofs.Workload.Matrices
import ComputeBench.Proofs.Workload.Sizes
import ComputeBench.Proofs.Workload.Walks
import ComputeBench.Service.Session
