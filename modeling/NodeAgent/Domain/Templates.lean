import NodeAgent.Protocol

/-! # The pod template catalog -/

namespace NodeAgent

structure TemplateSpec where
  image : String
  gpuFraction : Rat

def builtinTemplates : List (String × TemplateSpec) :=
  [("jupyter", ⟨"jupyter/scipy-notebook:latest", 1⟩),
   ("vscode", ⟨"codercom/code-server:latest", 1 / 2⟩),
   ("pytorch", ⟨"pytorch/pytorch:2.7.0-cuda12.8-cudnn9-runtime", 1⟩),
   ("pytorch-legacy", ⟨"pytorch/pytorch:2.2.0-cuda12.1-cudnn8-runtime", 1⟩),
   ("vllm", ⟨"vllm/vllm-openai:v0.8.5", 1⟩),
   ("comfyui", ⟨"ghcr.io/ai-dock/comfyui:latest", 1⟩),
   ("ubuntu-ssh", ⟨"greencompute/gpu-pod:latest", 0⟩),
   ("gpu-pod", ⟨"greencompute/gpu-pod:latest", 1⟩),
   ("pytorch-jupyter", ⟨"pytorch/pytorch:2.7.0-cuda12.8-cudnn9-runtime", 1⟩)]

def getTemplate (name : String) : Option TemplateSpec :=
  (builtinTemplates.find? fun entry => entry.1 = name).map Prod.snd

end NodeAgent
